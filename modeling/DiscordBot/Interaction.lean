import DiscordBot.Command.AppCommand
import DiscordBot.Message

/-! Interactions: what reaches the bot when someone uses a command or a component. -/

namespace DiscordBot

open Json (Fields fields? required optional defaulted field nullableField optionalField record)

inductive InteractionType where
  | ping
  | applicationCommand
  | messageComponent
  | autocomplete
  | modalSubmit
  | unknown (n : UInt8)
  deriving DecidableEq, Repr, Inhabited

namespace InteractionType

def code : InteractionType → UInt8
  | ping => 1
  | applicationCommand => 2
  | messageComponent => 3
  | autocomplete => 4
  | modalSubmit => 5
  | unknown n => n

def ofCode (n : UInt8) : InteractionType :=
  match n with
  | 1 => ping
  | 2 => applicationCommand
  | 3 => messageComponent
  | 4 => autocomplete
  | 5 => modalSubmit
  | n => unknown n

def label : InteractionType → String
  | ping => "Ping"
  | applicationCommand => "ApplicationCommand"
  | messageComponent => "MessageComponent"
  | autocomplete => "Autocomplete"
  | modalSubmit => "ModalSubmit"
  | unknown n => unknownLabel n

instance : Coded InteractionType := ⟨code, ofCode, label⟩

end InteractionType

inductive CallbackType where
  | pong
  | channelMessageWithSource
  | deferredChannelMessageWithSource
  | deferredUpdateMessage
  | updateMessage
  | unknown (n : UInt8)
  deriving DecidableEq, Repr, Inhabited

namespace CallbackType

def code : CallbackType → UInt8
  | pong => 1
  | channelMessageWithSource => 4
  | deferredChannelMessageWithSource => 5
  | deferredUpdateMessage => 6
  | updateMessage => 7
  | unknown n => n

def ofCode (n : UInt8) : CallbackType :=
  match n with
  | 1 => pong
  | 4 => channelMessageWithSource
  | 5 => deferredChannelMessageWithSource
  | 6 => deferredUpdateMessage
  | 7 => updateMessage
  | n => unknown n

def label : CallbackType → String
  | pong => "Pong"
  | channelMessageWithSource => "ChannelMessageWithSource"
  | deferredChannelMessageWithSource => "DeferredChannelMessageWithSource"
  | deferredUpdateMessage => "DeferredUpdateMessage"
  | updateMessage => "UpdateMessage"
  | unknown n => unknownLabel n

instance : Coded CallbackType := ⟨code, ofCode, label⟩

end CallbackType

structure InteractionOption where
  name : String
  kind : OptionType
  value : Option Json
  options : Option (List InteractionOption)
  focused : Option Bool
  deriving Inhabited

namespace InteractionOption

def fieldNames : List String := ["name", "type", "value", "options", "focused"]

def fieldsAround (o : InteractionOption) (options : Option Json) : List (String × Option Json) := [
  field "name" o.name,
  field "type" o.kind,
  optionalField "value" o.value,
  ("options", options),
  optionalField "focused" o.focused]

mutual

def toJson : InteractionOption → Json
  | ⟨name, kind, value, options, focused⟩ =>
    record (fieldsAround ⟨name, kind, value, options, focused⟩ (nestedToJson options))

def nestedToJson : Option (List InteractionOption) → Option Json
  | none => none
  | some os => some (.arr (listToJson os))

def listToJson : List InteractionOption → List Json
  | [] => []
  | o :: os => toJson o :: listToJson os

end

def ofFields? (fs : Fields) (options : Option (List InteractionOption)) :
    Option InteractionOption := do
  some {
    name := ← required fs "name"
    kind := ← required fs "type"
    value := ← optional fs "value"
    options := options
    focused := ← optional fs "focused" }

def ofJson? (j : Json) : Option InteractionOption := Json.nested? fieldNames "options" ofFields? j

instance : JsonForm InteractionOption := ⟨toJson, ofJson?⟩

end InteractionOption

structure InteractionData where
  id : Option Snowflake
  name : Option String
  kind : Option CommandType
  resolved : Option Json
  options : Option (List InteractionOption)
  guildId : Option Snowflake
  targetId : Option Snowflake
  customId : Option String
  componentType : Option ComponentType
  values : Option (List String)
  deriving Inhabited

namespace InteractionData

def fieldNames : List String := [
  "id", "name", "type", "resolved", "options", "guild_id", "target_id", "custom_id",
  "component_type", "values"]

def toJson (d : InteractionData) : Json := record [
  optionalField "id" d.id,
  optionalField "name" d.name,
  optionalField "type" d.kind,
  optionalField "resolved" d.resolved,
  optionalField "options" d.options,
  optionalField "guild_id" d.guildId,
  optionalField "target_id" d.targetId,
  optionalField "custom_id" d.customId,
  optionalField "component_type" d.componentType,
  optionalField "values" d.values]

def ofJson? (j : Json) : Option InteractionData := do
  let fs ← fields? fieldNames j
  some {
    id := ← optional fs "id"
    name := ← optional fs "name"
    kind := ← optional fs "type"
    resolved := ← optional fs "resolved"
    options := ← optional fs "options"
    guildId := ← optional fs "guild_id"
    targetId := ← optional fs "target_id"
    customId := ← optional fs "custom_id"
    componentType := ← optional fs "component_type"
    values := ← optional fs "values" }

instance : JsonForm InteractionData := ⟨toJson, ofJson?⟩

end InteractionData

structure Interaction where
  id : Snowflake
  applicationId : Snowflake
  kind : InteractionType
  data : Option InteractionData
  guildId : Option Snowflake
  channelId : Option Snowflake
  member : Option GuildMember
  user : Option User
  token : String
  version : UInt8
  message : Option Json
  deriving Inhabited

structure CommandPath where
  name : String
  group : Option String
  subgroup : Option String
  options : List InteractionOption
  deriving Inhabited

def CommandPath.toJson (p : CommandPath) : Json := .obj [
  ("name", .str p.name),
  nullableField "group" p.group,
  nullableField "sub_group" p.subgroup,
  ("options", DiscordBot.toJson p.options)]

namespace Interaction

def fieldNames : List String := [
  "id", "application_id", "type", "data", "guild_id", "channel_id", "member", "user", "token",
  "version", "message"]

def toJson (i : Interaction) : Json := record [
  field "id" i.id,
  field "application_id" i.applicationId,
  field "type" i.kind,
  optionalField "data" i.data,
  optionalField "guild_id" i.guildId,
  optionalField "channel_id" i.channelId,
  optionalField "member" i.member,
  optionalField "user" i.user,
  field "token" i.token,
  field "version" i.version,
  optionalField "message" i.message]

def ofJson? (j : Json) : Option Interaction := do
  let fs ← fields? fieldNames j
  some {
    id := ← required fs "id"
    applicationId := ← required fs "application_id"
    kind := ← required fs "type"
    data := ← optional fs "data"
    guildId := ← optional fs "guild_id"
    channelId := ← optional fs "channel_id"
    member := ← optional fs "member"
    user := ← optional fs "user"
    token := ← required fs "token"
    version := ← defaulted fs "version" 0
    message := ← optional fs "message" }

instance : JsonForm Interaction := ⟨toJson, ofJson?⟩

def author? (i : Interaction) : Option User := (i.member.bind (·.user)).or i.user

/-- The path of a command interaction. The kind of its first option tells whether it is nested; a group
without an option in it leads nowhere. -/
def commandPath? (i : Interaction) : Option CommandPath := do
  let data ← i.data
  let top ← data.name
  match data.options.getD [] with
  | o :: os =>
    match o.kind with
    | .subCommandGroup =>
      match o.options with
      | some (sub :: _) => some ⟨sub.name, some top, some o.name, sub.options.getD []⟩
      | _ => none
    | .subCommand => some ⟨o.name, some top, none, o.options.getD []⟩
    | _ => some ⟨top, none, none, o :: os⟩
  | [] => some ⟨top, none, none, []⟩

end Interaction

structure MessageContext where
  author : User
  member : Option GuildMember
  guildId : Option Snowflake
  channelId : Option Snowflake
  commandName : String
  interactionId : Snowflake
  deriving Inhabited

namespace MessageContext

def ofInteraction (i : Interaction) (commandName : String) : Except BotError MessageContext :=
  match i.author? with
  | some author => .ok {
      author := author
      member := i.member
      guildId := i.guildId
      channelId := i.channelId
      commandName := commandName
      interactionId := i.id }
  | none => .error (.handler ("interaction " ++ i.id.text ++ " has no user or member"))

def toJson (c : MessageContext) : Json := .obj [
  ("author", c.author.toJson),
  nullableField "member" c.member,
  nullableField "guild_id" c.guildId,
  nullableField "channel_id" c.channelId,
  ("command_name", .str c.commandName),
  ("interaction_id", DiscordBot.toJson c.interactionId)]

end MessageContext

end DiscordBot
