import DiscordBot.Message
import DiscordBot.Proofs.Reencoding.Kinds
import Mathlib.Tactic.Simproc.ExistsAndEq

/-! Components and messages that are read again from what is written for them. -/

namespace DiscordBot

open Json (bind_eq_some exists_fields field optionalField written)

instance : Faithful Emoji where
  keeps {j x} hj h := by
    cases x
    simp only [ofJson?, Emoji.ofJson?] at h ⊢
    simp only [↓bind_eq_some, Option.some.injEq, Emoji.mk.injEq, existsAndEq, and_true] at h ⊢
    obtain ⟨fs, hfs, id, name, animated⟩ := h
    exact exists_fields hj hfs (by simp [optionalField]) fun k =>
      ⟨k.optional id rfl, k.optional name rfl, k.optional animated rfl⟩
  ne_null _ _ _ := nofun

instance : Faithful Button where
  keeps {j x} hj h := by
    cases x
    simp only [ofJson?, Button.ofJson?] at h ⊢
    simp only [↓bind_eq_some, Option.some.injEq, Button.mk.injEq, existsAndEq, and_true] at h ⊢
    obtain ⟨fs, hfs, kind, style, label, emoji, customId, url, disabled⟩ := h
    exact exists_fields hj hfs (by simp [field, optionalField]) fun k =>
      ⟨k.required kind rfl, k.required style rfl, k.optional label rfl, k.optional emoji rfl,
        k.optional customId rfl, k.optional url rfl, k.optional disabled rfl⟩
  ne_null _ _ _ := nofun

instance : Faithful SelectOption where
  keeps {j x} hj h := by
    cases x
    simp only [ofJson?, SelectOption.ofJson?] at h ⊢
    simp only [↓bind_eq_some, Option.some.injEq, SelectOption.mk.injEq, existsAndEq, and_true] at h ⊢
    obtain ⟨fs, hfs, label, value, description, emoji, isDefault⟩ := h
    exact exists_fields hj hfs (by simp [field, optionalField]) fun k =>
      ⟨k.required label rfl, k.required value rfl, k.optional description rfl, k.optional emoji rfl,
        k.optional isDefault rfl⟩
  ne_null _ _ _ := nofun

lemma SelectMenu.nodup_writtenFields (m : SelectMenu) : (m.writtenFields.map Prod.fst).Nodup := by
  simp [writtenFields, field, optionalField]

instance : Faithful SelectMenu where
  keeps {j x} hj h := by
    cases x
    simp only [ofJson?, SelectMenu.ofJson?] at h ⊢
    simp only [↓bind_eq_some, Option.some.injEq, SelectMenu.mk.injEq, existsAndEq, and_true] at h ⊢
    obtain ⟨fs, hfs, kind, customId, options, placeholder, minValues, maxValues, disabled⟩ := h
    exact exists_fields hj hfs (SelectMenu.nodup_writtenFields _) fun k =>
      ⟨k.required kind rfl, k.required customId rfl, k.required options rfl,
        k.optional placeholder rfl, k.optional minValues rfl, k.optional maxValues rfl,
        k.optional disabled rfl⟩
  ne_null _ _ _ := nofun

lemma SelectMenu.not_button (m : SelectMenu) : Button.ofJson? m.toJson = none := by
  refine Option.eq_none_iff_forall_ne_some.mpr fun b hb => ?_
  obtain ⟨kind, -, hb⟩ := Option.bind_eq_some_iff.mp hb
  obtain ⟨style, hstyle, -⟩ := Option.bind_eq_some_iff.mp hb
  change Json.required (written m.writtenFields) "style" = some style at hstyle
  rw [Json.required, Json.lookup_written m.nodup_writtenFields] at hstyle
  cases hstyle

instance : Faithful Component where
  keeps {j x} hj h := by
    change Component.ofJson? j = some x at h
    unfold Component.ofJson? at h
    split at h
    · rename_i b hb
      cases h
      have hkeeps : Button.ofJson? b.toJson = some b := Faithful.keeps (α := Button) hj hb
      change Component.ofJson? b.toJson = some (.button b)
      rw [Component.ofJson?, hkeeps]
    · obtain ⟨m, hm, rfl⟩ := Option.map_eq_some_iff.mp h
      have hkeeps : SelectMenu.ofJson? m.toJson = some m := Faithful.keeps (α := SelectMenu) hj hm
      change Component.ofJson? m.toJson = some (.selectMenu m)
      rw [Component.ofJson?, m.not_button, hkeeps, Option.map_some]
  ne_null {j x} _ _ _ := by
    cases x <;> nofun

instance : Faithful ActionRow where
  keeps {j x} hj h := by
    cases x
    simp only [ofJson?, ActionRow.ofJson?] at h ⊢
    simp only [↓bind_eq_some, Option.some.injEq, ActionRow.mk.injEq, existsAndEq, and_true] at h ⊢
    obtain ⟨fs, hfs, kind, components⟩ := h
    exact exists_fields hj hfs (by simp [field]) fun k =>
      ⟨k.required kind rfl, k.required components rfl⟩
  ne_null _ _ _ := nofun

lemma Json.Rewritten.listField {α : Type} [JsonForm α] [Faithful α] {fs : Fields}
    {gs : List (String × Option Json)} {name : String} (k : Rewritten fs gs) {xs : List α}
    (hx : Json.defaulted fs name [] = some xs) (hg : gs.lookup name = some (Message.listField name xs).2) :
    Json.defaulted (written gs) name [] = some xs := by
  cases xs with
  | nil =>
    simp [Json.defaulted, lookup_written k.nodup, hg, Message.listField, Json.optionalField]
  | cons x xs => exact k.defaulted rfl hx hg

instance : Faithful Message where
  keeps {j x} hj h := by
    cases x
    simp only [ofJson?, Message.ofJson?] at h ⊢
    simp only [↓bind_eq_some, Option.some.injEq, Message.mk.injEq, existsAndEq, and_true] at h ⊢
    obtain ⟨fs, hfs, content, tts, embeds, flags, components, allowedMentions⟩ := h
    exact exists_fields hj hfs (by simp [optionalField, Message.listField]) fun k =>
      ⟨k.optional content rfl, k.optional tts rfl, k.listField embeds rfl, k.optional flags rfl,
        k.listField components rfl, k.optional allowedMentions rfl⟩
  ne_null _ _ _ := nofun

end DiscordBot
