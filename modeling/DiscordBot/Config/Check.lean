import DiscordBot.Error
import DiscordBot.Text.Basic
import DiscordBot.Url.Basic

/-! Checks of single configuration values. -/

namespace DiscordBot.Config

def checkPositive (field : String) (value least : Nat) : Except BotError Unit :=
  if value < least then
    .error (.invalidValue field (toString value) ("Value must be at least " ++ toString least))
  else .ok ()

def requireField {α : Type} (field : String) (value : Option α) : Except BotError α :=
  match value with
  | some x => .ok x
  | none => .error (.missingField field)

def checkNonBlank (field value : String) : Except BotError Unit :=
  if Text.isBlankText value then
    .error (.invalidValue field value "Value cannot be empty or whitespace-only")
  else .ok ()

def checkRange {α : Type} (less : α → α → Bool) (text : α → String) (field : String)
    (value least greatest : α) : Except BotError Unit :=
  -- NaN is in no order with the bounds, so that it passes.
  if less value least || less greatest value then
    .error (.invalidValue field (text value)
      ("Value must be between " ++ text least ++ " and " ++ text greatest))
  else .ok ()

def checkIntRange (field : String) (value least greatest : Int) : Except BotError Unit :=
  checkRange (fun a b => decide (a < b)) toString field value least greatest

def checkFloatRange (field : String) (value least greatest : Float) : Except BotError Unit :=
  checkRange (fun a b => decide (a < b)) Decimal.plainText field value least greatest

def urlSchemes : List String := ["http", "https", "ws", "wss"]

def checkUrl (field value : String) : Except BotError Unit :=
  if value.isEmpty then .error (.invalidValue field value "URL cannot be empty")
  else
    match Url.parse value with
    | .error fault => .error (.invalidValue field value ("Invalid URL format: " ++ fault.message))
    | .ok url =>
      if urlSchemes.contains url.scheme then .ok ()
      else .error (.invalidValue field value ("Unsupported URL scheme: " ++ url.scheme))

end DiscordBot.Config
