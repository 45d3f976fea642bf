import DiscordBot.Command.Option
import DiscordBot.Config.Environment
import DiscordBot.Error
import DiscordBot.Toml.Reader
import DiscordBot.Toml.Record

/-! The configuration of a bot: how it connects, and which commands it answers with a fixed reply. -/

namespace DiscordBot

structure BotSection where
  token : String
  apiVersion : Option UInt8
  maxRetries : Option UInt32
  intents : Option UInt32
  apiBase : Option String
  gatewayUrl : Option String

structure OptionSection where
  name : String
  kind : String
  description : Option String
  required : Option Bool
  choices : List Choice
  minValue : Option Float
  maxValue : Option Float

structure CommandSection where
  name : String
  kind : Option String
  description : Option String
  guild : Option String
  cooldown : Option UInt32
  cooldownScale : Option Float
  cooldownScope : Option String
  ephemeral : Option Bool
  reply : String
  group : Option String
  subgroup : Option String
  options : List OptionSection

structure BotConfig where
  bot : BotSection
  commands : List CommandSection

open Toml (Record Value)

def ChoiceValue.ofToml? (v : Value) : Option ChoiceValue :=
  match v with
  | .string s => some (string s)
  | .integer n =>
    if -0x8000000000000000 ≤ n ∧ n ≤ 0x7FFFFFFFFFFFFFFF then some (integer (Int64.ofInt n))
    else v.float?.map number
  | v => v.float?.map number

def Choice.ofToml? (v : Value) : Option Choice := do
  let r ← Record.ofValue? ["name", "value"] v
  some {
    name := ← r.required "name" Value.string?
    value := ← r.required "value" ChoiceValue.ofToml? }

namespace BotSection

def fieldNames : List String := [
  "token", "api_version", "max_retries", "intents", "api_base", "gateway_url"]

def ofToml? (v : Value) : Option BotSection := do
  let r ← Record.ofValue? fieldNames v
  some {
    token := ← r.required "token" Value.string?
    apiVersion := ← r.optional "api_version" Value.uint8?
    maxRetries := ← r.optional "max_retries" Value.uint32?
    intents := ← r.optional "intents" Value.uint32?
    apiBase := ← r.optional "api_base" Value.string?
    gatewayUrl := ← r.optional "gateway_url" Value.string? }

end BotSection

namespace OptionSection

def fieldNames : List String := [
  "name", "kind", "description", "required", "choices", "min_value", "max_value"]

def ofToml? (v : Value) : Option OptionSection := do
  let r ← Record.ofValue? fieldNames v
  some {
    name := ← r.required "name" Value.string?
    kind := ← r.required "kind" Value.string?
    description := ← r.optional "description" Value.string?
    required := ← r.optional "required" Value.boolean?
    choices := ← r.defaulted "choices" (Value.list? Choice.ofToml?) []
    minValue := ← r.optional "min_value" Value.float?
    maxValue := ← r.optional "max_value" Value.float? }

end OptionSection

namespace CommandSection

def fieldNames : List String := [
  "name", "kind", "description", "guild", "cooldown", "cooldown_scale", "cooldown_scope", "ephemeral",
  "reply", "group", "subgroup", "options"]

def ofToml? (v : Value) : Option CommandSection := do
  let r ← Record.ofValue? fieldNames v
  some {
    name := ← r.required "name" Value.string?
    kind := ← r.optional "kind" Value.string?
    description := ← r.optional "description" Value.string?
    guild := ← r.optional "guild" Value.string?
    cooldown := ← r.optional "cooldown" Value.uint32?
    cooldownScale := ← r.optional "cooldown_scale" Value.float?
    cooldownScope := ← r.optional "cooldown_scope" Value.string?
    ephemeral := ← r.optional "ephemeral" Value.boolean?
    reply := ← r.required "reply" Value.string?
    group := ← r.optional "group" Value.string?
    subgroup := ← r.optional "subgroup" Value.string?
    options := ← r.defaulted "options" (Value.list? OptionSection.ofToml?) [] }

end CommandSection

namespace BotConfig

def ofToml? (v : Value) : Option BotConfig := do
  let r ← Record.ofValue? ["bot", "commands"] v
  some {
    bot := ← r.required "bot" BotSection.ofToml?
    commands := ← r.defaulted "commands" (Value.list? CommandSection.ofToml?) [] }

def ofText (env : Config.Environment) (s : String) : Except BotError BotConfig :=
  match (Toml.parse? (Config.substitute env s)).bind fun ms => ofToml? (.table .header ms) with
  | some c => .ok c
  | none => .error .malformedConfig

def defaultApiVersion : UInt8 := 10

def defaultMaxRetries : UInt32 := 5

def apiVersion (c : BotConfig) : UInt8 := c.bot.apiVersion.getD defaultApiVersion

def maxRetries (c : BotConfig) : UInt32 := c.bot.maxRetries.getD defaultMaxRetries

def intents (c : BotConfig) : UInt32 := c.bot.intents.getD 0

end BotConfig

end DiscordBot
