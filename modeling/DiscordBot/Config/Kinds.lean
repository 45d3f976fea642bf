import DiscordBot.Command.AppCommand
import DiscordBot.Config.Bot
import DiscordBot.Cooldown.ThrottleScope

/-! The words by which a configuration names kinds and scopes. -/

namespace DiscordBot

open BotError (invalidValue)

def CommandType.ofWord? : String → Option CommandType
  | "chat_input" | "slash" => some .chatInput
  | "user" => some .user
  | "message" => some .message
  | _ => none

def ThrottleScope.ofWord? : String → Option ThrottleScope
  | "guild" => some .guild
  | "channel" => some .channel
  | "user" => some .user
  | "global" => some .global
  | _ => none

def OptionType.ofWord? : String → Option OptionType
  | "string" => some .string
  | "integer" => some .integer
  | "number" => some .number
  | "boolean" => some .boolean
  | "user" => some .user
  | "channel" => some .channel
  | "role" => some .role
  | "mentionable" => some .mentionable
  | _ => none

def meaning {α : Type} (ofWord? : String → Option α) (field word reason : String) :
    Except BotError α :=
  match ofWord? word with
  | some x => .ok x
  | none => .error (invalidValue field word reason)

def CommandSection.commandType (c : CommandSection) : Except BotError CommandType :=
  meaning CommandType.ofWord? ("commands." ++ c.name ++ ".kind") (c.kind.getD "chat_input")
    "Valid kinds: chat_input, user, message"

def CommandSection.throttleScope (c : CommandSection) : Except BotError ThrottleScope :=
  meaning ThrottleScope.ofWord? ("commands." ++ c.name ++ ".cooldown_scope")
    (c.cooldownScope.getD "user") "Valid scopes: guild, channel, user, global"

def OptionSection.optionType (o : OptionSection) : Except BotError OptionType :=
  meaning OptionType.ofWord? ("options." ++ o.name ++ ".kind") o.kind
    "Valid kinds: string, integer, number, boolean, user, channel, role, mentionable"

end DiscordBot
