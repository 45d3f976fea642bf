import DiscordBot.Config.Bot

/-! Configurations as JSON. What is not set is `null`. -/

namespace DiscordBot

open Json (nullableField)

def OptionSection.toJson (o : OptionSection) : Json := .obj [
  ("name", .str o.name), ("kind", .str o.kind), nullableField "description" o.description,
  nullableField "required" o.required, ("choices", DiscordBot.toJson o.choices),
  nullableField "min_value" o.minValue, nullableField "max_value" o.maxValue]

def CommandSection.toJson (c : CommandSection) : Json := .obj [
  ("name", .str c.name), nullableField "kind" c.kind, nullableField "description" c.description,
  nullableField "guild" c.guild, nullableField "cooldown" c.cooldown,
  nullableField "cooldown_scale" c.cooldownScale, nullableField "cooldown_scope" c.cooldownScope,
  nullableField "ephemeral" c.ephemeral, ("reply", .str c.reply), nullableField "group" c.group,
  nullableField "subgroup" c.subgroup, ("options", .arr (c.options.map OptionSection.toJson))]

def BotSection.toJson (b : BotSection) : Json := .obj [
  ("token", .str b.token), nullableField "api_version" b.apiVersion,
  nullableField "max_retries" b.maxRetries, nullableField "intents" b.intents,
  nullableField "api_base" b.apiBase, nullableField "gateway_url" b.gatewayUrl]

def BotConfig.toJson (c : BotConfig) : Json := .obj [
  ("bot", c.bot.toJson), ("commands", .arr (c.commands.map CommandSection.toJson))]

end DiscordBot
