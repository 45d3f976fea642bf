import DiscordBot.Command.Option

/-! Commands as the service stores them, and when two of them describe the same command. -/

namespace DiscordBot

open Json (fields? required optional defaulted field optionalField record)

inductive CommandType where
  | chatInput
  | user
  | message
  | unknown (n : UInt8)
  deriving DecidableEq, Repr, Inhabited

namespace CommandType

def code : CommandType → UInt8
  | chatInput => 1
  | user => 2
  | message => 3
  | unknown n => n

def ofCode (n : UInt8) : CommandType :=
  match n with
  | 1 => chatInput
  | 2 => user
  | 3 => message
  | n => unknown n

def label : CommandType → String
  | chatInput => "ChatInput"
  | user => "User"
  | message => "Message"
  | unknown n => unknownLabel n

instance : Coded CommandType := ⟨code, ofCode, label⟩

end CommandType

structure AppCommand where
  id : Option Snowflake
  kind : CommandType
  applicationId : Option Snowflake
  guildId : Option Snowflake
  name : String
  description : String
  options : Option (List CommandOption)
  defaultPermission : Option Bool
  version : Option Snowflake
  deriving Inhabited

namespace AppCommand

def fieldNames : List String := [
  "id", "type", "application_id", "guild_id", "name", "description", "options", "default_permission",
  "version"]

def writtenFields (c : AppCommand) : List (String × Option Json) := [
  optionalField "id" c.id,
  field "type" c.kind,
  optionalField "application_id" c.applicationId,
  optionalField "guild_id" c.guildId,
  field "name" c.name,
  field "description" c.description,
  optionalField "options" c.options,
  optionalField "default_permission" c.defaultPermission,
  optionalField "version" c.version]

def toJson (c : AppCommand) : Json := record c.writtenFields

def ofJson? (j : Json) : Option AppCommand := do
  let fs ← fields? fieldNames j
  some {
    id := ← optional fs "id"
    kind := ← defaulted fs "type" .chatInput
    applicationId := ← optional fs "application_id"
    guildId := ← optional fs "guild_id"
    name := ← required fs "name"
    description := ← defaulted fs "description" ""
    options := ← optional fs "options"
    defaultPermission := ← optional fs "default_permission"
    version := ← optional fs "version" }

instance : JsonForm AppCommand := ⟨toJson, ofJson?⟩

def named (kind : CommandType) (name description : String) : AppCommand where
  id := none
  kind := kind
  applicationId := none
  guildId := none
  name := name
  description := description
  options := none
  defaultPermission := some true
  version := none

def payloadFields (c : AppCommand) : List (String × Option Json) := [
  field "name" c.name,
  field "type" c.kind,
  field "description" c.description,
  optionalField "options" c.options,
  optionalField "default_permission" c.defaultPermission]

def payload (c : AppCommand) : Json := record c.payloadFields

end AppCommand

namespace CommandOption

mutual

/-- Two options agree if they differ at most in an absent `required`, which means false, and in absent
lists, which are empty. -/
def agrees : CommandOption → CommandOption → Bool
  | ⟨kind, name, description, required, choices, options, channelTypes, minValue, maxValue⟩, o =>
    kind == o.kind && name == o.name && description == o.description
      && required.getD false == o.required.getD false
      && choices.getD [] == o.choices.getD []
      && channelTypes.getD [] == o.channelTypes.getD []
      && minValue == o.minValue && maxValue == o.maxValue
      && nestedAgree options (o.options.getD [])

def nestedAgree : Option (List CommandOption) → List CommandOption → Bool
  | none, os => os.isEmpty
  | some ps, os => listAgree ps os

def listAgree : List CommandOption → List CommandOption → Bool
  | [], [] => true
  | p :: ps, o :: os => agrees p o && listAgree ps os
  | _, _ => false

end

mutual

def same : CommandOption → CommandOption → Bool
  | ⟨kind, name, description, required, choices, options, channelTypes, minValue, maxValue⟩, o =>
    kind == o.kind && name == o.name && description == o.description && required == o.required
      && choices == o.choices && nestedSame options o.options && channelTypes == o.channelTypes
      && minValue == o.minValue && maxValue == o.maxValue

def nestedSame : Option (List CommandOption) → Option (List CommandOption) → Bool
  | none, none => true
  | some ps, some os => listSame ps os
  | _, _ => false

def listSame : List CommandOption → List CommandOption → Bool
  | [], [] => true
  | p :: ps, o :: os => same p o && listSame ps os
  | _, _ => false

end

instance : BEq CommandOption := ⟨same⟩

end CommandOption

namespace AppCommand

/-- Two commands agree if the service would store the same for both. What it assigns itself (the id, the
application and the version) is not looked at. -/
def agrees (a b : AppCommand) : Bool :=
  a.name == b.name && a.kind == b.kind && a.guildId == b.guildId && a.description == b.description
    && a.defaultPermission.getD true == b.defaultPermission.getD true
    && CommandOption.nestedAgree a.options (b.options.getD [])

def same (a b : AppCommand) : Bool :=
  a.id == b.id && a.kind == b.kind && a.applicationId == b.applicationId && a.guildId == b.guildId
    && a.name == b.name && a.description == b.description && a.options == b.options
    && a.defaultPermission == b.defaultPermission && a.version == b.version

instance : BEq AppCommand := ⟨same⟩

end AppCommand

end DiscordBot
