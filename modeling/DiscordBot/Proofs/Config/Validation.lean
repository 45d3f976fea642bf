import DiscordBot.Config.Validation
import DiscordBot.Proofs.Registry.Rules

/-! What a configuration looks like that passes its validation. -/

namespace DiscordBot

lemma forM_eq_ok {ε α : Type} {check : α → Except ε Unit} {xs : List α} :
    xs.forM check = .ok () ↔ ∀ x ∈ xs, check x = .ok () := by
  induction xs with
  | nil => simp [pure, Except.pure]
  | cons x xs ih =>
    change (check x >>= fun _ => xs.forM check) = .ok () ↔ _
    rw [check_bind_eq_ok, ih, List.forall_mem_cons]

lemma option_forM_eq_ok {ε α : Type} {check : α → Except ε Unit} {x : Option α} :
    x.forM check = .ok () ↔ ∀ y ∈ x, check y = .ok () := by
  cases x <;> simp [Option.forM, pure, Except.pure]

lemma discard_eq_ok {ε α : Type} {x : Except ε α} :
    (x >>= fun _ => pure ()) = .ok () ↔ ∃ a, x = .ok a := by
  simp [except_bind_eq_ok, pure, Except.pure]

lemma unless_eq_ok {ε β : Type} {condition : Bool} {e : ε} {rest : Unit → Except ε β} {b : β} :
    (if condition = true then (.error e >>= rest) else rest ()) = .ok b ↔
      condition = false ∧ rest () = .ok b := by
  cases condition <;> simp [bind, Except.bind]

lemma ite_eq_ok {ε : Type} {condition : Bool} {e : ε} :
    (if condition = true then .ok () else .error e : Except ε Unit) = .ok () ↔ condition = true := by
  cases condition <;> simp

lemma Config.checkNonBlank_eq_ok {field value : String} :
    checkNonBlank field value = .ok () ↔ Text.isBlankText value = false := by
  unfold checkNonBlank
  split <;> simp [*]

lemma CommandSection.isValidScale_iff {x : Float} : isValidScale x = true ↔ x.isFinite = true ∧ 0 < x := by
  rw [isValidScale, Bool.and_eq_true, decide_eq_true_iff]

namespace CommandSection

structure Usable (s : CommandSection) : Prop where
  name : Text.isBlankText s.name = false
  kind : ∃ kind, s.commandType = .ok kind
  scope : ∃ scope, s.throttleScope = .ok scope
  scale : ∀ x ∈ s.cooldownScale, x.isFinite = true ∧ 0 < x
  group : s.subgroup.isSome = true → s.group.isSome = true
  options : ∀ o ∈ s.options, ∃ kind, o.optionType = .ok kind

variable {s : CommandSection} {place : Nat}

lemma validate_eq_ok : s.validate place = .ok () ↔ s.Usable := by
  have hscale {check : Float → Except BotError Unit}
      (hcheck : ∀ x, check x = .ok () ↔ isValidScale x = true) :
      s.cooldownScale.forM check = .ok () ↔ ∀ x ∈ s.cooldownScale, x.isFinite = true ∧ 0 < x := by
    simp only [option_forM_eq_ok, hcheck, isValidScale_iff]
  have hgroup : (s.subgroup.isSome && s.group.isNone) = false ↔
      (s.subgroup.isSome = true → s.group.isSome = true) := by
    cases s.subgroup <;> cases s.group <;> simp
  constructor
  · intro h
    obtain ⟨hname, h⟩ := check_bind_eq_ok.mp h
    obtain ⟨kind, hkind, h⟩ := except_bind_eq_ok.mp h
    obtain ⟨scope, hscope, h⟩ := except_bind_eq_ok.mp h
    obtain ⟨hvalid, h⟩ := check_bind_eq_ok.mp h
    obtain ⟨hparent, hoptions⟩ := unless_eq_ok.mp h
    exact ⟨Config.checkNonBlank_eq_ok.mp hname, ⟨kind, hkind⟩, ⟨scope, hscope⟩,
      (hscale fun _ => ite_eq_ok).mp hvalid, hgroup.mp hparent,
      fun o ho => discard_eq_ok.mp (forM_eq_ok.mp hoptions o ho)⟩
  · rintro ⟨hname, ⟨kind, hkind⟩, ⟨scope, hscope⟩, hvalid, hparent, hoptions⟩
    refine check_bind_eq_ok.mpr ⟨Config.checkNonBlank_eq_ok.mpr hname, ?_⟩
    refine except_bind_eq_ok.mpr ⟨kind, hkind, except_bind_eq_ok.mpr ⟨scope, hscope, ?_⟩⟩
    refine check_bind_eq_ok.mpr ⟨(hscale fun _ => ite_eq_ok).mpr hvalid, ?_⟩
    exact unless_eq_ok.mpr ⟨hgroup.mpr hparent,
      forM_eq_ok.mpr fun o ho => discard_eq_ok.mpr (hoptions o ho)⟩

end CommandSection

namespace BotConfig

variable {c : BotConfig}

lemma usable_of_validate (h : c.validate = .ok ()) : ∀ s ∈ c.commands, s.Usable := by
  obtain ⟨-, h⟩ := check_bind_eq_ok.mp h
  intro s hs
  obtain ⟨place, hplace, rfl⟩ := List.mem_iff_getElem.mp hs
  exact CommandSection.validate_eq_ok.mp (forM_eq_ok.mp h (c.commands[place], place) (List.mem_iff_getElem.mpr ⟨place, by simpa using hplace, by simp⟩))

end BotConfig

end DiscordBot
