import DiscordBot.Command.Registry
import DiscordBot.Config.Kinds
import DiscordBot.Reply.Static

/-! The commands of a configuration. Each answers with its fixed reply. -/

namespace DiscordBot

namespace OptionSection

def argument (o : OptionSection) : Except BotError Argument := do
  let kind ← o.optionType
  let a := Argument.named o.name kind
  .ok {
    option := { a.option with
      description := o.description.getD a.option.description
      required := some (o.required.getD true)
      choices := if o.choices.isEmpty then none else some o.choices
      minValue := o.minValue
      maxValue := o.maxValue }
    leaf := a.leaf }

end OptionSection

namespace CommandSection

def parent (c : CommandSection) : Except BotError (Option Parent) :=
  match c.group, c.subgroup with
  | some group, some subgroup =>
    .ok (some (.subgroup { name := subgroup, parent := { name := group } }))
  | some group, none => .ok (some (.group { name := group }))
  | none, some subgroup => .error (.missingField ("group for subgroup \x60" ++ subgroup ++ "\x60"))
  | none, none => .ok none

def declaration (c : CommandSection) : Except BotError Declaration := do
  let kind ← c.commandType
  let bare := Declaration.ofKind kind c.name
  let scope ← c.throttleScope
  let parent ← c.parent
  let arguments ← c.options.mapM (·.argument)
  let reply : Reply.Static := {
    template := c.reply
    ephemeral := c.ephemeral.getD false
    kinds := arguments.map fun a => (a.option.name, a.option.kind) }
  .ok { bare with
    description := c.description.or bare.description
    guild := c.guild
    cooldown := c.cooldown.getD bare.cooldown
    cooldownScale := c.cooldownScale.getD bare.cooldownScale
    cooldownScope := scope
    parent := parent
    arguments := arguments
    handler := some reply.handler }

end CommandSection

def registerSections : List CommandSection → Registry → Except BotError Unit × Registry
  -- After one that fails, the ones before it stay registered.
  | [], r => (.ok (), r)
  | c :: cs, r =>
    match c.declaration with
    | .error e => (.error e, r)
    | .ok d =>
      match r.register d with
      | (.ok _, r) => registerSections cs r
      | (.error e, r) => (.error e, r)

def BotConfig.register (c : BotConfig) (r : Registry) : Except BotError Nat × Registry :=
  let (result, r) := registerSections c.commands r
  (result.map fun _ => c.commands.length, r)

end DiscordBot
