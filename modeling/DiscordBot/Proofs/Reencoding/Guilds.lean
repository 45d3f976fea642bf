import DiscordBot.Proofs.Reencoding.Kinds
import DiscordBot.Ready
import Mathlib.Tactic.Simproc.ExistsAndEq

/-! Users, guilds, channels and invites that are read again from what is written for them. -/

namespace DiscordBot

open Json (bind_eq_some exists_fields field fields? fits_fields optionalField written)

instance : Faithful User where
  keeps {j x} hj h := by
    cases x
    simp only [ofJson?, User.ofJson?] at h ⊢
    simp only [↓bind_eq_some, Option.some.injEq, User.mk.injEq, existsAndEq, and_true] at h ⊢
    obtain ⟨fs, hfs, id, username, discriminator, globalName, avatar, bot⟩ := h
    exact exists_fields hj hfs (by simp [field, optionalField]) fun k =>
      ⟨k.required id rfl, k.required username rfl, k.optional discriminator rfl,
        k.optional globalName rfl, k.optional avatar rfl, k.optional bot rfl⟩
  ne_null _ _ _ := nofun

instance : Faithful GuildMember where
  keeps {j x} hj h := by
    cases x
    simp only [ofJson?, GuildMember.ofJson?] at h ⊢
    simp only [↓bind_eq_some, Option.some.injEq, GuildMember.mk.injEq, existsAndEq, and_true] at h ⊢
    obtain ⟨fs, hfs, user, nick, roles, joinedAt, permissions⟩ := h
    exact exists_fields hj hfs (by simp [field, optionalField]) fun k =>
      ⟨k.optional user rfl, k.optional nick rfl, k.defaulted rfl roles rfl, k.optional joinedAt rfl,
        k.optional permissions rfl⟩
  ne_null _ _ _ := nofun

instance : Faithful Role where
  keeps {j x} hj h := by
    cases x
    simp only [ofJson?, Role.ofJson?] at h ⊢
    simp only [↓bind_eq_some, Option.some.injEq, Role.mk.injEq, existsAndEq, and_true] at h ⊢
    obtain ⟨fs, hfs, id, name, color, position, permissions, mentionable⟩ := h
    exact exists_fields hj hfs (by simp [field]) fun k =>
      ⟨k.required id rfl, k.required name rfl, k.defaulted rfl color rfl,
        k.defaulted rfl position rfl, k.defaulted rfl permissions rfl,
        k.defaulted rfl mentionable rfl⟩
  ne_null _ _ _ := nofun

instance : Faithful PartialGuild where
  keeps {j x} hj h := by
    cases x
    simp only [ofJson?, PartialGuild.ofJson?] at h ⊢
    simp only [↓bind_eq_some, Option.some.injEq, PartialGuild.mk.injEq, existsAndEq, and_true] at h ⊢
    obtain ⟨fs, hfs, id, name, icon, unavailable⟩ := h
    exact exists_fields hj hfs (by simp [field, optionalField]) fun k =>
      ⟨k.required id rfl, k.optional name rfl, k.optional icon rfl, k.optional unavailable rfl⟩
  ne_null _ _ _ := nofun

instance : Faithful PartialApplication where
  keeps {j x} hj h := by
    cases x
    simp only [ofJson?, PartialApplication.ofJson?] at h ⊢
    simp only [↓bind_eq_some, Option.some.injEq, PartialApplication.mk.injEq, existsAndEq, and_true] at h ⊢
    obtain ⟨fs, hfs, id, name, flags⟩ := h
    exact exists_fields hj hfs (by simp [field, optionalField]) fun k =>
      ⟨k.required id rfl, k.optional name rfl, k.optional flags rfl⟩
  ne_null _ _ _ := nofun

instance : Faithful Ready where
  keeps {j x} hj h := by
    cases x
    simp only [ofJson?, Ready.ofJson?] at h ⊢
    simp only [↓bind_eq_some, Option.some.injEq, Ready.mk.injEq, existsAndEq, and_true] at h ⊢
    obtain ⟨fs, hfs, version, user, guilds, sessionId, resumeGatewayUrl, application⟩ := h
    exact exists_fields hj hfs (by simp [field, optionalField]) fun k =>
      ⟨k.required version rfl, k.required user rfl, k.defaulted rfl guilds rfl,
        k.required sessionId rfl, k.optional resumeGatewayUrl rfl, k.optional application rfl⟩
  ne_null _ _ _ := nofun

instance : Faithful Overwrite where
  keeps {j x} hj h := by
    cases x
    simp only [ofJson?, Overwrite.ofJson?] at h ⊢
    simp only [↓bind_eq_some, Option.some.injEq, Overwrite.mk.injEq, existsAndEq, and_true] at h ⊢
    obtain ⟨fs, hfs, id, kind, allow, deny⟩ := h
    exact exists_fields hj hfs (by simp [field]) fun k =>
      ⟨k.required id rfl, k.required kind rfl, k.required allow rfl, k.required deny rfl⟩
  ne_null _ _ _ := nofun

instance : Faithful ThreadMetadata where
  keeps {j x} hj h := by
    cases x
    simp only [ofJson?, ThreadMetadata.ofJson?] at h ⊢
    simp only [↓bind_eq_some, Option.some.injEq, ThreadMetadata.mk.injEq, existsAndEq, and_true] at h ⊢
    obtain ⟨fs, hfs, archived, autoArchiveDuration, archiveTimestamp, locked⟩ := h
    exact exists_fields hj hfs (by simp [field]) fun k =>
      ⟨k.required archived rfl, k.required autoArchiveDuration rfl, k.required archiveTimestamp rfl,
        k.defaulted rfl locked rfl⟩
  ne_null _ _ _ := nofun

instance : Faithful Channel where
  keeps {j x} hj h := by
    cases x
    simp only [ofJson?, Channel.ofJson?] at h ⊢
    simp only [↓bind_eq_some, Option.some.injEq, Channel.mk.injEq, existsAndEq, and_true] at h ⊢
    obtain ⟨fs, hfs, id, kind, applicationId, bitrate, defaultAutoArchiveDuration, guildId, icon,
      lastMessageId, lastPinTimestamp, member, memberCount, messageCount, name, nsfw, ownerId,
      parentId, permissions, permissionOverwrites, position, rateLimitPerUser, recipients,
      rtcRegion, threadMetadata, topic, userLimit, videoQualityMode⟩ := h
    exact exists_fields hj hfs (by simp [field, optionalField]) fun k =>
      ⟨k.required id rfl, k.required kind rfl, k.optional applicationId rfl, k.optional bitrate rfl,
        k.optional defaultAutoArchiveDuration rfl, k.optional guildId rfl, k.optional icon rfl,
        k.optional lastMessageId rfl, k.optional lastPinTimestamp rfl, k.optional member rfl,
        k.optional memberCount rfl, k.optional messageCount rfl, k.optional name rfl,
        k.optional nsfw rfl, k.optional ownerId rfl, k.optional parentId rfl,
        k.optional permissions rfl, k.optional permissionOverwrites rfl, k.optional position rfl,
        k.optional rateLimitPerUser rfl, k.optional recipients rfl, k.optional rtcRegion rfl,
        k.optional threadMetadata rfl, k.optional topic rfl, k.optional userLimit rfl,
        k.optional videoQualityMode rfl⟩
  ne_null _ _ _ := nofun

instance : Faithful StageInstance where
  keeps {j x} hj h := by
    cases x
    simp only [ofJson?, StageInstance.ofJson?] at h ⊢
    simp only [↓bind_eq_some, Option.some.injEq, StageInstance.mk.injEq, existsAndEq, and_true] at h ⊢
    obtain ⟨fs, hfs, members, participantCount, speakerCount, topic⟩ := h
    exact exists_fields hj hfs (by simp [field]) fun k =>
      ⟨k.required members rfl, k.required participantCount rfl, k.required speakerCount rfl,
        k.required topic rfl⟩
  ne_null _ _ _ := nofun

namespace Invite

lemma nodup_writtenFields (i : Invite) : (i.writtenFields.map Prod.fst).Nodup := by
  obtain ⟨_, _, _, _, _, _, _, _, _, _, _, metadata⟩ := i
  cases metadata <;> simp [writtenFields, InviteMetadata.fields, field, optionalField]

lemma metadata_written {fs : Json.Fields} {i : Invite} (k : Json.Rewritten fs i.writtenFields)
    (h : InviteMetadata.ofFields? fs = i.metadata) :
    InviteMetadata.ofFields? (written i.writtenFields) = i.metadata := by
  -- Without metadata no field of it is written, so that none is read.
  obtain ⟨_, _, _, _, _, _, _, _, _, _, _, metadata⟩ := i
  cases metadata with
  | none =>
    simp only [InviteMetadata.ofFields?, Json.required, Json.lookup_written k.nodup]
    rfl
  | some m =>
    cases m
    simp only [InviteMetadata.ofFields?] at h ⊢
    simp only [↓bind_eq_some, Option.some.injEq, InviteMetadata.mk.injEq, existsAndEq, and_true] at h ⊢
    obtain ⟨uses, maxUses, maxAge, temporary, createdAt⟩ := h
    exact ⟨k.required uses rfl, k.required maxUses rfl, k.required maxAge rfl, k.required temporary rfl,
      k.required createdAt rfl⟩

end Invite

instance : Faithful Invite where
  keeps {j x} hj h := by
    cases j with
    | obj fs =>
      have k : Json.Rewritten fs x.writtenFields :=
        ⟨fits_fields hj (rfl : fields? [] (.obj fs) = some fs), x.nodup_writtenFields⟩
      have hmetadata := x.metadata_written k
      change Invite.ofJson? (.obj fs) = some x at h
      change Invite.ofJson? (.obj (written x.writtenFields)) = some x
      cases x
      simp only [Invite.ofJson?] at h ⊢
      simp only [↓bind_eq_some, Option.some.injEq, Invite.mk.injEq, existsAndEq, true_and] at h ⊢
      obtain ⟨channel, code, members, presences, expiresAt, inviter, guild, stageInstance, targetType,
        targetUser, targetApplication, metadata⟩ := h
      exact ⟨k.required channel rfl, k.required code rfl, k.optional members rfl,
        k.optional presences rfl, k.optional expiresAt rfl, k.optional inviter rfl,
        k.optional guild rfl, k.optional stageInstance rfl, k.optional targetType rfl,
        k.optional targetUser rfl, k.optional targetApplication rfl, hmetadata metadata⟩
    | _ => cases h
  ne_null _ _ _ := nofun

end DiscordBot
