import DiscordBot.Command.Arguments
import DiscordBot.Cooldown.ThrottleScope

/-! Commands as a bot declares them. -/

namespace DiscordBot

abbrev CommandHandler := MessageContext → Arguments → Except BotError Response

def defaultDescription : String := "Description not set"

structure Argument where
  option : CommandOption
  leaf : option.options = none

def Argument.named (name : String) (kind : OptionType) : Argument where
  option := { CommandOption.named kind name defaultDescription with required := some true }
  leaf := rfl

structure Group where
  name : String
  description : Option String := none
  deriving DecidableEq, Repr, Inhabited

structure Subgroup where
  name : String
  description : Option String := none
  parent : Group
  deriving DecidableEq, Repr, Inhabited

def Group.toJson (g : Group) : Json := .obj [
  ("name", .str g.name), Json.nullableField "description" g.description]

def Subgroup.toJson (s : Subgroup) : Json := .obj [
  ("name", .str s.name), Json.nullableField "description" s.description,
  ("parent", .str s.parent.name)]

inductive Parent where
  | group (g : Group)
  | subgroup (s : Subgroup)
  deriving DecidableEq, Repr

def Parent.outer : Parent → Group
  | group g => g
  | subgroup s => s.parent

def Parent.inner? : Parent → Option Subgroup
  | group _ => none
  | subgroup s => some s

/-- A cooldown of zero means that there is none; else it is the number of calls that are allowed within
a number of seconds. -/
structure Declaration where
  kind : CommandType
  name : String
  description : Option String
  enabledByDefault : Bool := true
  guild : Option String := none
  cooldown : UInt32 := 0
  cooldownScale : Float := 60
  cooldownScope : ThrottleScope := .user
  parent : Option Parent := none
  arguments : List Argument := []
  handler : Option CommandHandler := none

namespace Declaration

def chatInput (name : String) : Declaration :=
  { kind := .chatInput, name := name, description := some defaultDescription }

def user (name : String) : Declaration := { kind := .user, name := name, description := none }

def message (name : String) : Declaration := { kind := .message, name := name, description := none }

def ofKind (kind : CommandType) (name : String) : Declaration :=
  match kind with
  | .user => .user name
  | .message => .message name
  | _ => .chatInput name

end Declaration

end DiscordBot
