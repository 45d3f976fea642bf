import DiscordBot.Channel

/-! Invites to a channel. -/

namespace DiscordBot

open Json (fields? required optional defaulted field optionalField record)

inductive InviteTargetType where
  | stream
  | embeddedApplication
  | unknown (n : UInt8)
  deriving DecidableEq, Repr, Inhabited

namespace InviteTargetType

def code : InviteTargetType → UInt8
  | stream => 1
  | embeddedApplication => 2
  | unknown n => n

def ofCode (n : UInt8) : InviteTargetType :=
  match n with
  | 1 => stream
  | 2 => embeddedApplication
  | n => unknown n

def label : InviteTargetType → String
  | stream => "Stream"
  | embeddedApplication => "EmbeddedApplication"
  | unknown n => unknownLabel n

instance : Coded InviteTargetType := ⟨code, ofCode, label⟩

end InviteTargetType

structure StageInstance where
  members : List GuildMember
  participantCount : UInt32
  speakerCount : UInt32
  topic : String
  deriving DecidableEq, Inhabited

namespace StageInstance

def fieldNames : List String := ["members", "participant_count", "speaker_count", "topic"]

def toJson (s : StageInstance) : Json := record [
  field "members" s.members,
  field "participant_count" s.participantCount,
  field "speaker_count" s.speakerCount,
  field "topic" s.topic]

def ofJson? (j : Json) : Option StageInstance := do
  let fs ← fields? fieldNames j
  some {
    members := ← required fs "members"
    participantCount := ← required fs "participant_count"
    speakerCount := ← required fs "speaker_count"
    topic := ← required fs "topic" }

instance : JsonForm StageInstance := ⟨toJson, ofJson?⟩

end StageInstance

structure InviteMetadata where
  uses : UInt32
  maxUses : UInt32
  maxAge : UInt32
  temporary : Bool
  createdAt : Time.Timestamp
  deriving DecidableEq, Repr, Inhabited

namespace InviteMetadata

def fields (m : InviteMetadata) : List (String × Option Json) := [
  field "uses" m.uses,
  field "max_uses" m.maxUses,
  field "max_age" m.maxAge,
  field "temporary" m.temporary,
  field "created_at" m.createdAt]

def ofFields? (fs : Json.Fields) : Option InviteMetadata := do
  some {
    uses := ← required fs "uses"
    maxUses := ← required fs "max_uses"
    maxAge := ← required fs "max_age"
    temporary := ← required fs "temporary"
    createdAt := ← required fs "created_at" }

end InviteMetadata

structure Invite where
  channel : Channel
  code : String
  approximateMemberCount : Option UInt32
  approximatePresenceCount : Option UInt32
  expiresAt : Option Time.Timestamp
  inviter : Option User
  guild : Option PartialGuild
  stageInstance : Option StageInstance
  targetType : Option InviteTargetType
  targetUser : Option User
  targetApplication : Option PartialApplication
  metadata : Option InviteMetadata
  deriving DecidableEq, Inhabited

namespace Invite

def writtenFields (i : Invite) : List (String × Option Json) := [
  field "channel" i.channel,
  field "code" i.code,
  optionalField "approximate_member_count" i.approximateMemberCount,
  optionalField "approximate_presence_count" i.approximatePresenceCount,
  optionalField "expires_at" i.expiresAt,
  optionalField "inviter" i.inviter,
  optionalField "guild" i.guild,
  optionalField "stage_instance" i.stageInstance,
  optionalField "target_type" i.targetType,
  optionalField "target_user" i.targetUser,
  optionalField "target_application" i.targetApplication]
    ++ (i.metadata.map InviteMetadata.fields).getD []

def toJson (i : Invite) : Json := record i.writtenFields

def ofJson? : Json → Option Invite
  -- Metadata of which a field cannot be read is no fault.
  | .obj fs => do
    some {
      channel := ← required fs "channel"
      code := ← required fs "code"
      approximateMemberCount := ← optional fs "approximate_member_count"
      approximatePresenceCount := ← optional fs "approximate_presence_count"
      expiresAt := ← optional fs "expires_at"
      inviter := ← optional fs "inviter"
      guild := ← optional fs "guild"
      stageInstance := ← optional fs "stage_instance"
      targetType := ← optional fs "target_type"
      targetUser := ← optional fs "target_user"
      targetApplication := ← optional fs "target_application"
      metadata := InviteMetadata.ofFields? fs }
  | _ => none

instance : JsonForm Invite := ⟨toJson, ofJson?⟩

def link (i : Invite) : String := "https://discord.gg/" ++ i.code

end Invite

end DiscordBot
