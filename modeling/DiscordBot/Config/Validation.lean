import DiscordBot.Config.Check
import DiscordBot.Config.Kinds

/-! What a configuration must look like to be run. The first fault is told. -/

namespace DiscordBot

open Config

namespace BotSection

/-- A token that begins with a reference is one to a variable that is not set. -/
def validate (b : BotSection) : Except BotError Unit := do
  checkNonBlank "bot.token" b.token
  if "$\x7b".toList.isPrefixOf b.token.toList then
    .error (.missingField ("bot.token (environment variable " ++ b.token ++ " is not set)"))
  b.apiBase.forM (checkUrl "bot.api_base")
  b.gatewayUrl.forM (checkUrl "bot.gateway_url")
  b.apiVersion.forM fun v => checkIntRange "bot.api_version" v.toNat 6 10
  b.maxRetries.forM fun n => checkPositive "bot.max_retries" n.toNat 1

end BotSection

namespace CommandSection

def isValidScale (x : Float) : Bool := x.isFinite && 0 < x

def validate (place : Nat) (c : CommandSection) : Except BotError Unit := do
  let field (name : String) := "commands[" ++ toString place ++ "]." ++ name
  checkNonBlank (field "name") c.name
  let _ ← c.commandType
  let _ ← c.throttleScope
  c.cooldownScale.forM fun x =>
    if isValidScale x then .ok ()
    else .error (.invalidValue (field "cooldown_scale") (Decimal.plainText x)
      "Cooldown scale must be a positive, finite number of seconds")
  if c.subgroup.isSome && c.group.isNone then
    .error (.missingField (field "group (required by subgroup)"))
  c.options.forM fun o => do
    let _ ← o.optionType

end CommandSection

namespace BotConfig

def validate (c : BotConfig) : Except BotError Unit := do
  c.bot.validate
  c.commands.zipIdx.forM fun (c, place) => c.validate place

end BotConfig

end DiscordBot
