import DiscordBot.Json.Form

/-! Who shares a cooldown. -/

namespace DiscordBot

inductive ThrottleScope where
  | guild
  | channel
  | user
  | global
  | unknown (n : UInt8)
  deriving DecidableEq, Repr, Inhabited

namespace ThrottleScope

def code : ThrottleScope → UInt8
  | guild => 1
  | channel => 2
  | user => 3
  | global => 4
  | unknown n => n

def ofCode (n : UInt8) : ThrottleScope :=
  match n with
  | 1 => guild
  | 2 => channel
  | 3 => user
  | 4 => global
  | n => unknown n

def label : ThrottleScope → String
  | guild => "Guild"
  | channel => "Channel"
  | user => "User"
  | global => "Global"
  | unknown n => unknownLabel n

instance : Coded ThrottleScope := ⟨code, ofCode, label⟩

end ThrottleScope

end DiscordBot
