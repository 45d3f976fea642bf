import DiscordBot.Proofs.Command.ReadBack
import DiscordBot.Proofs.Reencoding.Guilds

/-! Commands and interactions that are read again from what is written for them. -/

namespace DiscordBot

open Json (bind_eq_some exists_fields field optionalField record written)

lemma ChoiceValue.finite_of_ofJson {j : Json} {v : ChoiceValue} (hj : j.Fits) (h : ofJson? j = some v) :
    v.Finite := by
  cases v with
  | number x =>
    unfold ChoiceValue.ofJson? at h
    split at h
    · cases h
    · split at h
      · cases h
      · obtain ⟨y, hy, heq⟩ := Option.map_eq_some_iff.mp h
        cases heq
        exact hj.isFinite hy
  | _ => trivial

instance : Faithful ChoiceValue := .of_readsBack fun hj h =>
  ChoiceValue.readsBack (ChoiceValue.finite_of_ofJson hj h)

instance : Faithful Choice where
  keeps {j x} hj h := by
    cases x
    simp only [ofJson?, Choice.ofJson?] at h ⊢
    simp only [↓bind_eq_some, Option.some.injEq, Choice.mk.injEq, existsAndEq, and_true] at h ⊢
    obtain ⟨fs, hfs, name, value⟩ := h
    exact exists_fields hj hfs (by simp [field]) fun k =>
      ⟨k.required name rfl, k.required value rfl⟩
  ne_null _ _ _ := nofun

lemma CommandOption.ofFields_written {fs : Json.Fields} {os : Option (List CommandOption)}
    {o : CommandOption} (k : Json.Rewritten fs o.writtenFields) (h : ofFields? fs os = some o) :
    o.options = os ∧ ofFields? (written o.writtenFields) os = some o := by
  cases o
  simp only [ofFields?, ↓bind_eq_some, Option.some.injEq, CommandOption.mk.injEq, existsAndEq,
    true_and, and_true] at h ⊢
  obtain ⟨kind, name, description, required, choices, channelTypes, minValue, maxValue, rfl⟩ := h
  exact ⟨rfl, k.required kind rfl, k.required name rfl, k.required description rfl,
    k.optional required rfl, k.optional choices rfl, k.optional channelTypes rfl,
    k.optional minValue rfl, k.optional maxValue rfl, rfl⟩

instance : Faithful CommandOption where
  keeps := Json.keeps_nested CommandOption.nestedForm CommandOption.ofFields_written
  ne_null {_ o} _ _ _ := by
    simp [DiscordBot.toJson, CommandOption.nestedForm.write_eq, record]

instance : Faithful AppCommand where
  keeps {j x} hj h := by
    cases x
    simp only [ofJson?, AppCommand.ofJson?] at h ⊢
    simp only [↓bind_eq_some, Option.some.injEq, AppCommand.mk.injEq, existsAndEq, and_true] at h ⊢
    obtain ⟨fs, hfs, id, kind, applicationId, guildId, name, description, options,
      defaultPermission, version⟩ := h
    exact exists_fields hj hfs (AppCommand.nodup_writtenFields _) fun k =>
      ⟨k.optional id rfl, k.defaulted rfl kind rfl, k.optional applicationId rfl,
        k.optional guildId rfl, k.required name rfl, k.defaulted rfl description rfl,
        k.optional options rfl, k.optional defaultPermission rfl, k.optional version rfl⟩
  ne_null _ _ _ := nofun

namespace InteractionOption

def writtenFields (o : InteractionOption) : List (String × Option Json) :=
  o.fieldsAround (o.options.map fun os => .arr (os.map toJson))

lemma nestedForm : Json.NestedForm "options" toJson writtenFields options where
  write_eq o := by
    cases o
    rw [toJson, Json.nestedToJson_eq_map nestedToJson.eq_1 nestedToJson.eq_2 listToJson.eq_1
      listToJson.eq_2]
    rfl
  nodup o := by simp [writtenFields, fieldsAround, field, optionalField]
  lookup_inner o := rfl

lemma ofFields_written {fs : Json.Fields} {os : Option (List InteractionOption)}
    {o : InteractionOption} (k : Json.Rewritten fs o.writtenFields) (h : ofFields? fs os = some o) :
    o.options = os ∧ ofFields? (written o.writtenFields) os = some o := by
  cases o
  simp only [ofFields?, ↓bind_eq_some, Option.some.injEq, InteractionOption.mk.injEq, existsAndEq,
    true_and, and_true] at h ⊢
  obtain ⟨name, kind, value, focused, rfl⟩ := h
  exact ⟨rfl, k.required name rfl, k.required kind rfl, k.optional value rfl,
    k.optional focused rfl, rfl⟩

instance : Faithful InteractionOption where
  keeps := Json.keeps_nested nestedForm ofFields_written
  ne_null {_ o} _ _ _ := by simp [DiscordBot.toJson, nestedForm.write_eq, record]

end InteractionOption

instance : Faithful InteractionData where
  keeps {j x} hj h := by
    cases x
    simp only [ofJson?, InteractionData.ofJson?] at h ⊢
    simp only [↓bind_eq_some, Option.some.injEq, InteractionData.mk.injEq, existsAndEq, and_true] at h ⊢
    obtain ⟨fs, hfs, id, name, kind, resolved, options, guildId, targetId, customId, componentType,
      values⟩ := h
    exact exists_fields hj hfs (by simp [optionalField]) fun k =>
      ⟨k.optional id rfl, k.optional name rfl, k.optional kind rfl, k.optional resolved rfl,
        k.optional options rfl, k.optional guildId rfl, k.optional targetId rfl,
        k.optional customId rfl, k.optional componentType rfl, k.optional values rfl⟩
  ne_null _ _ _ := nofun

instance : Faithful Interaction where
  keeps {j x} hj h := by
    cases x
    simp only [ofJson?, Interaction.ofJson?] at h ⊢
    simp only [↓bind_eq_some, Option.some.injEq, Interaction.mk.injEq, existsAndEq, and_true] at h ⊢
    obtain ⟨fs, hfs, id, applicationId, kind, data, guildId, channelId, member, user, token,
      version, message⟩ := h
    exact exists_fields hj hfs (by simp [field, optionalField]) fun k =>
      ⟨k.required id rfl, k.required applicationId rfl, k.required kind rfl, k.optional data rfl,
        k.optional guildId rfl, k.optional channelId rfl, k.optional member rfl,
        k.optional user rfl, k.required token rfl, k.defaulted rfl version rfl,
        k.optional message rfl⟩
  ne_null _ _ _ := nofun

end DiscordBot
