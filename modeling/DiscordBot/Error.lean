import DiscordBot.Decimal.Layout

/-! What can go wrong, with the texts that tell of it. -/

namespace DiscordBot

inductive BotError where
  | transport
  | gatewayTransport
  | fileAccess
  | malformedJson
  | malformedConfig
  | notModified (reason : String)
  | badRequest (reason : String)
  | unauthorized (reason : String)
  | forbidden (reason : String)
  | notFound (reason : String)
  | methodNotAllowed (reason : String)
  | rateLimited (reason : String)
  | serverFailure (text : String)
  | unexpectedStatus (status : Nat) (reason : String)
  | invalidCommandName (text : String)
  | invalidCommandGuild (text : String)
  | descriptionTooLong (text : String)
  | alreadyRegistered (text : String)
  | tooManyArguments (text : String)
  | invalidArgument (text : String)
  | invalidComponent (text : String)
  | cooldown (command : String) (retryAfter : Float)
  | handler (text : String)
  | gateway (text : String)
  | config (text : String)
  | missingField (field : String)
  | invalidValue (field value reason : String)
  deriving Inhabited

inductive Severity where
  | low
  | medium
  | high
  | critical
  deriving DecidableEq, Repr

def Severity.label : Severity → String
  | low => "Low"
  | medium => "Medium"
  | high => "High"
  | critical => "Critical"

namespace BotError

def message : BotError → String
  -- Where the cause is told by a parser or the network there is only its heading.
  | transport => "API request failed"
  | gatewayTransport => "Gateway transport error"
  | fileAccess => "IO error"
  | malformedJson => "Serialization error"
  | malformedConfig => "Configuration error"
  | notModified reason => "Not modified: " ++ reason
  | badRequest reason => "Bad request: " ++ reason
  | unauthorized reason => "Unauthorized: " ++ reason
  | forbidden reason => "Forbidden: " ++ reason
  | notFound reason => "Not found: " ++ reason
  | methodNotAllowed reason => "Method not allowed: " ++ reason
  | rateLimited reason => "Rate limited: " ++ reason
  | serverFailure text => "Server error: " ++ text
  | unexpectedStatus status reason => "Unexpected HTTP status " ++ toString status ++ ": " ++ reason
  | invalidCommandName text => "Invalid command name: " ++ text
  | invalidCommandGuild text => "Invalid command guild: " ++ text
  | descriptionTooLong text => "Command description too long: " ++ text
  | alreadyRegistered text => "Command already registered: " ++ text
  | tooManyArguments text => "Too many arguments: " ++ text
  | invalidArgument text => "Invalid argument annotation: " ++ text
  | invalidComponent text => "Invalid component: " ++ text
  | cooldown command retryAfter =>
    "Command `" ++ command ++ "` is on cooldown, retry in " ++ Decimal.tenthsText retryAfter ++ "s"
  | handler text => "Command handler failed: " ++ text
  | gateway text => "Gateway error: " ++ text
  | config text => "Configuration error: " ++ text
  | missingField field => "Missing configuration field: " ++ field
  | invalidValue field value reason =>
    "Invalid value `" ++ value ++ "` for `" ++ field ++ "`: " ++ reason

def ofStatus? (status : Nat) (reason : String) : Option BotError :=
  match status with
  | 304 => some (notModified reason)
  | 400 => some (badRequest reason)
  | 401 => some (unauthorized reason)
  | 403 => some (forbidden reason)
  | 404 => some (notFound reason)
  | 405 => some (methodNotAllowed reason)
  | 429 => some (rateLimited reason)
  | _ => none

def severity : BotError → Severity
  | notModified _ | cooldown .. => .low
  | transport | gatewayTransport | rateLimited _ | serverFailure _ => .medium
  | unauthorized _ | gateway _ | fileAccess => .critical
  | _ => .high

def friendlyMessage (e : BotError) : String :=
  match e with
  | unauthorized _ => "Discord rejected the bot token"
  | forbidden _ => "The bot lacks permission for this action"
  | notFound _ => "The requested Discord resource does not exist"
  | serverFailure _ => "Discord kept failing with server errors"
  | malformedConfig | config _ | missingField _ | invalidValue .. =>
    "Invalid configuration: " ++ e.message
  | e => e.message

def suggestion : BotError → String
  | unauthorized _ => "Check the token in the [bot] section or DISCORD_TOKEN"
  | forbidden _ => "Re-invite the bot with the applications.commands scope"
  | rateLimited _ | serverFailure _ | transport => "Wait a moment and try again"
  | gateway _ | gatewayTransport => "Check the configured intents and that the token is valid"
  | malformedConfig | config _ | missingField _ | invalidValue .. => "Fix the TOML file and run again"
  | invalidCommandName _ | invalidCommandGuild _ | descriptionTooLong _ | alreadyRegistered _
  | tooManyArguments _ | invalidArgument _ | invalidComponent _ => "Adjust the command declaration"
  | _ => "Run again with --verbose for details"

end BotError

def decoded {α : Type} (x : Option α) : Except BotError α :=
  match x with
  | some x => .ok x
  | none => .error .malformedJson

end DiscordBot
