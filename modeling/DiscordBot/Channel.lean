import DiscordBot.User

/-! Channels, the permission overwrites and threads that belong to them, and edits of channels. -/

namespace DiscordBot

open Json (fields? required optional defaulted field optionalField record)

inductive ChannelType where
  | guildText
  | dm
  | guildVoice
  | groupDm
  | guildCategory
  | guildNews
  | guildStore
  | guildNewsThread
  | guildPublicThread
  | guildPrivateThread
  | guildStageVoice
  | unknown (n : UInt8)
  deriving DecidableEq, Repr, Inhabited

namespace ChannelType

def code : ChannelType → UInt8
  | guildText => 0
  | dm => 1
  | guildVoice => 2
  | groupDm => 3
  | guildCategory => 4
  | guildNews => 5
  | guildStore => 6
  | guildNewsThread => 10
  | guildPublicThread => 11
  | guildPrivateThread => 12
  | guildStageVoice => 13
  | unknown n => n

def ofCode (n : UInt8) : ChannelType :=
  match n with
  | 0 => guildText
  | 1 => dm
  | 2 => guildVoice
  | 3 => groupDm
  | 4 => guildCategory
  | 5 => guildNews
  | 6 => guildStore
  | 10 => guildNewsThread
  | 11 => guildPublicThread
  | 12 => guildPrivateThread
  | 13 => guildStageVoice
  | n => unknown n

def label : ChannelType → String
  | guildText => "GuildText"
  | dm => "Dm"
  | guildVoice => "GuildVoice"
  | groupDm => "GroupDm"
  | guildCategory => "GuildCategory"
  | guildNews => "GuildNews"
  | guildStore => "GuildStore"
  | guildNewsThread => "GuildNewsThread"
  | guildPublicThread => "GuildPublicThread"
  | guildPrivateThread => "GuildPrivateThread"
  | guildStageVoice => "GuildStageVoice"
  | unknown n => unknownLabel n

instance : Coded ChannelType := ⟨code, ofCode, label⟩

end ChannelType

inductive ChannelKind where
  | text
  | voice
  | category
  | news
  | other
  deriving DecidableEq, Repr

def ChannelKind.label : ChannelKind → String
  | text => "Text"
  | voice => "Voice"
  | category => "Category"
  | news => "News"
  | other => "Other"

def ChannelType.kind : ChannelType → ChannelKind
  | guildText => .text
  | guildVoice => .voice
  | guildCategory => .category
  | guildNews => .news
  | _ => .other

inductive OverwriteType where
  | role
  | member
  | unknown (n : UInt8)
  deriving DecidableEq, Repr, Inhabited

namespace OverwriteType

def code : OverwriteType → UInt8
  | role => 0
  | member => 1
  | unknown n => n

def ofCode (n : UInt8) : OverwriteType :=
  match n with
  | 0 => role
  | 1 => member
  | n => unknown n

def label : OverwriteType → String
  | role => "Role"
  | member => "Member"
  | unknown n => unknownLabel n

instance : Coded OverwriteType := ⟨code, ofCode, label⟩

end OverwriteType

structure Overwrite where
  id : Snowflake
  kind : OverwriteType
  allow : String
  deny : String
  deriving DecidableEq, Repr, Inhabited

namespace Overwrite

def fieldNames : List String := ["id", "type", "allow", "deny"]

def toJson (o : Overwrite) : Json := record [
  field "id" o.id,
  field "type" o.kind,
  field "allow" o.allow,
  field "deny" o.deny]

def ofJson? (j : Json) : Option Overwrite := do
  let fs ← fields? fieldNames j
  some {
    id := ← required fs "id"
    kind := ← required fs "type"
    allow := ← required fs "allow"
    deny := ← required fs "deny" }

instance : JsonForm Overwrite := ⟨toJson, ofJson?⟩

end Overwrite

structure ThreadMetadata where
  archived : Bool
  autoArchiveDuration : UInt32
  archiveTimestamp : Time.Timestamp
  locked : Bool
  deriving DecidableEq, Repr, Inhabited

namespace ThreadMetadata

def fieldNames : List String := ["archived", "auto_archive_duration", "archive_timestamp", "locked"]

def toJson (m : ThreadMetadata) : Json := record [
  field "archived" m.archived,
  field "auto_archive_duration" m.autoArchiveDuration,
  field "archive_timestamp" m.archiveTimestamp,
  field "locked" m.locked]

def ofJson? (j : Json) : Option ThreadMetadata := do
  let fs ← fields? fieldNames j
  some {
    archived := ← required fs "archived"
    autoArchiveDuration := ← required fs "auto_archive_duration"
    archiveTimestamp := ← required fs "archive_timestamp"
    locked := ← defaulted fs "locked" false }

instance : JsonForm ThreadMetadata := ⟨toJson, ofJson?⟩

end ThreadMetadata

structure Channel where
  id : Snowflake
  kind : ChannelType
  applicationId : Option Snowflake
  bitrate : Option UInt32
  defaultAutoArchiveDuration : Option UInt32
  guildId : Option Snowflake
  icon : Option String
  lastMessageId : Option Snowflake
  lastPinTimestamp : Option Time.Timestamp
  member : Option GuildMember
  memberCount : Option UInt32
  messageCount : Option UInt32
  name : Option String
  nsfw : Option Bool
  ownerId : Option Snowflake
  parentId : Option Snowflake
  permissions : Option String
  permissionOverwrites : Option (List Overwrite)
  position : Option Int32
  rateLimitPerUser : Option UInt32
  recipients : Option (List User)
  rtcRegion : Option String
  threadMetadata : Option ThreadMetadata
  topic : Option String
  userLimit : Option UInt32
  videoQualityMode : Option UInt8
  deriving DecidableEq, Inhabited

namespace Channel

def fieldNames : List String := [
  "id", "type", "application_id", "bitrate", "default_auto_archive_duration", "guild_id", "icon",
  "last_message_id", "last_pin_timestamp", "member", "member_count", "message_count", "name", "nsfw",
  "owner_id", "parent_id", "permissions", "permission_overwrites", "position", "rate_limit_per_user",
  "recipients", "rtc_region", "thread_metadata", "topic", "user_limit", "video_quality_mode"]

def toJson (c : Channel) : Json := record [
  field "id" c.id,
  field "type" c.kind,
  optionalField "application_id" c.applicationId,
  optionalField "bitrate" c.bitrate,
  optionalField "default_auto_archive_duration" c.defaultAutoArchiveDuration,
  optionalField "guild_id" c.guildId,
  optionalField "icon" c.icon,
  optionalField "last_message_id" c.lastMessageId,
  optionalField "last_pin_timestamp" c.lastPinTimestamp,
  optionalField "member" c.member,
  optionalField "member_count" c.memberCount,
  optionalField "message_count" c.messageCount,
  optionalField "name" c.name,
  optionalField "nsfw" c.nsfw,
  optionalField "owner_id" c.ownerId,
  optionalField "parent_id" c.parentId,
  optionalField "permissions" c.permissions,
  optionalField "permission_overwrites" c.permissionOverwrites,
  optionalField "position" c.position,
  optionalField "rate_limit_per_user" c.rateLimitPerUser,
  optionalField "recipients" c.recipients,
  optionalField "rtc_region" c.rtcRegion,
  optionalField "thread_metadata" c.threadMetadata,
  optionalField "topic" c.topic,
  optionalField "user_limit" c.userLimit,
  optionalField "video_quality_mode" c.videoQualityMode]

def ofJson? (j : Json) : Option Channel := do
  let fs ← fields? fieldNames j
  some {
    id := ← required fs "id"
    kind := ← required fs "type"
    applicationId := ← optional fs "application_id"
    bitrate := ← optional fs "bitrate"
    defaultAutoArchiveDuration := ← optional fs "default_auto_archive_duration"
    guildId := ← optional fs "guild_id"
    icon := ← optional fs "icon"
    lastMessageId := ← optional fs "last_message_id"
    lastPinTimestamp := ← optional fs "last_pin_timestamp"
    member := ← optional fs "member"
    memberCount := ← optional fs "member_count"
    messageCount := ← optional fs "message_count"
    name := ← optional fs "name"
    nsfw := ← optional fs "nsfw"
    ownerId := ← optional fs "owner_id"
    parentId := ← optional fs "parent_id"
    permissions := ← optional fs "permissions"
    permissionOverwrites := ← optional fs "permission_overwrites"
    position := ← optional fs "position"
    rateLimitPerUser := ← optional fs "rate_limit_per_user"
    recipients := ← optional fs "recipients"
    rtcRegion := ← optional fs "rtc_region"
    threadMetadata := ← optional fs "thread_metadata"
    topic := ← optional fs "topic"
    userLimit := ← optional fs "user_limit"
    videoQualityMode := ← optional fs "video_quality_mode" }

instance : JsonForm Channel := ⟨toJson, ofJson?⟩

def mention (c : Channel) : String := "<#" ++ c.id.text ++ ">"

def displayName (c : Channel) : String := c.name.getD c.id.text

end Channel

structure ChannelEdit where
  name : Option String
  kind : Option ChannelType
  position : Option Int32
  topic : Option String
  nsfw : Option Bool
  rateLimitPerUser : Option UInt32
  bitrate : Option UInt32
  userLimit : Option UInt32
  permissionOverwrites : Option (List Overwrite)
  parentId : Option Snowflake
  rtcRegion : Option String
  videoQualityMode : Option UInt8
  defaultAutoArchiveDuration : Option UInt32
  deriving DecidableEq, Inhabited

namespace ChannelEdit

def toJson (e : ChannelEdit) : Json := record [
  optionalField "name" e.name,
  optionalField "type" e.kind,
  optionalField "position" e.position,
  optionalField "topic" e.topic,
  optionalField "nsfw" e.nsfw,
  optionalField "rate_limit_per_user" e.rateLimitPerUser,
  optionalField "bitrate" e.bitrate,
  optionalField "user_limit" e.userLimit,
  optionalField "permission_overwrites" e.permissionOverwrites,
  optionalField "parent_id" e.parentId,
  optionalField "rtc_region" e.rtcRegion,
  optionalField "video_quality_mode" e.videoQualityMode,
  optionalField "default_auto_archive_duration" e.defaultAutoArchiveDuration]

def fieldNames : List String := [
  "name", "type", "position", "topic", "nsfw", "rate_limit_per_user", "bitrate", "user_limit",
  "permission_overwrites", "parent_id", "rtc_region", "video_quality_mode",
  "default_auto_archive_duration"]

def ofJson? (j : Json) : Option ChannelEdit := do
  let fs ← fields? fieldNames j
  some {
    name := ← optional fs "name"
    kind := ← optional fs "type"
    position := ← optional fs "position"
    topic := ← optional fs "topic"
    nsfw := ← optional fs "nsfw"
    rateLimitPerUser := ← optional fs "rate_limit_per_user"
    bitrate := ← optional fs "bitrate"
    userLimit := ← optional fs "user_limit"
    permissionOverwrites := ← optional fs "permission_overwrites"
    parentId := ← optional fs "parent_id"
    rtcRegion := ← optional fs "rtc_region"
    videoQualityMode := ← optional fs "video_quality_mode"
    defaultAutoArchiveDuration := ← optional fs "default_auto_archive_duration" }

instance : JsonForm ChannelEdit := ⟨toJson, ofJson?⟩

def isEmpty (e : ChannelEdit) : Bool := e == default

end ChannelEdit

structure ChannelMention where
  id : Snowflake
  guildId : Snowflake
  kind : ChannelType
  name : String
  deriving DecidableEq, Repr, Inhabited

namespace ChannelMention

def fieldNames : List String := ["id", "guild_id", "type", "name"]

def toJson (m : ChannelMention) : Json := record [
  field "id" m.id,
  field "guild_id" m.guildId,
  field "type" m.kind,
  field "name" m.name]

def ofJson? (j : Json) : Option ChannelMention := do
  let fs ← fields? fieldNames j
  some {
    id := ← required fs "id"
    guildId := ← required fs "guild_id"
    kind := ← required fs "type"
    name := ← required fs "name" }

instance : JsonForm ChannelMention := ⟨toJson, ofJson?⟩

end ChannelMention

end DiscordBot
