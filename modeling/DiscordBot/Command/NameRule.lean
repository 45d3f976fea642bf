import DiscordBot.Text.WordChar

/-! Which names commands, groups and arguments may have. -/

namespace DiscordBot

inductive NameRule where
  | typed
  | menu
  deriving DecidableEq, Repr

namespace NameRule

def pattern : NameRule → String
  | typed => "^[a-z0-9_-]{1,32}$"
  | menu => "^[\\w\\- ]{1,32}$"

def allowsChar : NameRule → Char → Bool
  | typed, c => (decide ('a' ≤ c) && decide (c ≤ 'z')) || (decide ('0' ≤ c) && decide (c ≤ '9'))
    || c == '_' || c == '-'
  | menu, c => Text.isWordChar c || c == '-' || c == ' '

def allows (rule : NameRule) (name : String) : Bool :=
  let cs := name.toList
  decide (1 ≤ cs.length) && decide (cs.length ≤ 32) && cs.all rule.allowsChar

end NameRule

end DiscordBot
