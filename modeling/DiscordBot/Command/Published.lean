import DiscordBot.Command.Registry

/-! The commands of a registry in the nested form in which they are published: a group is a command
whose options are the commands and the groups inside it. -/

namespace DiscordBot

def updateFirst {α : Type} (p : α → Bool) (f : α → α) (new : α) : List α → List α
  | [] => [f new]
  | x :: xs => if p x then f x :: xs else x :: updateFirst p f new xs

def AppCommand.addOption (c : AppCommand) (o : CommandOption) : AppCommand :=
  { c with options := some (c.options.getD [] ++ [o]) }

def CommandOption.addOption (p o : CommandOption) : CommandOption :=
  { p with options := some (p.options.getD [] ++ [o]) }

def OptionType.isNesting : OptionType → Bool
  | subCommand | subCommandGroup => true
  | _ => false

def AppCommand.isGroup (c : AppCommand) : Bool :=
  match c.options with
  | some (o :: _) => o.kind.isNesting
  | _ => false

def Group.published (g : Group) (guildId : Option Snowflake) : AppCommand :=
  { AppCommand.named .chatInput g.name (g.description.getD defaultDescription) with
    guildId := guildId
    options := some [] }

def Subgroup.published (s : Subgroup) : CommandOption :=
  { CommandOption.named .subCommandGroup s.name (s.description.getD defaultDescription) with
    options := some [] }

def RegisteredCommand.nested (c : RegisteredCommand) : CommandOption :=
  { CommandOption.named .subCommand c.app.name c.app.description with options := c.app.options }

def RegisteredCommand.addTo (c : RegisteredCommand) (top : AppCommand) : AppCommand :=
  match c.subgroup with
  | none => top.addOption c.nested
  | some s =>
    { top with options := some (updateFirst
        (fun o => o.kind == .subCommandGroup && o.name == s.name)
        (fun o => o.addOption c.nested) s.published (top.options.getD [])) }

/-- Publishes one more command. Its group is the first group of that name and guild, or a new one at the
end. -/
def RegisteredCommand.publish (built : List AppCommand) (c : RegisteredCommand) : List AppCommand :=
  match c.group with
  | none => built ++ [c.app]
  | some g =>
    updateFirst
      (fun t => t.name == g.name && t.guildId == c.app.guildId && t.kind == .chatInput && t.isGroup)
      c.addTo (g.published c.app.guildId) built

def Registry.published (r : Registry) : List AppCommand :=
  r.commands.foldl RegisteredCommand.publish []

end DiscordBot
