import DiscordBot.Proofs.Config.Registration
import DiscordBot.Proofs.Config.Validation
import DiscordBot.Proofs.Cooldown.Calls
import DiscordBot.Proofs.Time.Seconds

/-! Cooldowns of the commands of a configuration. Validation lets scales through that are no lengths of
time, and calls of a command with such a scale always fail. It also lets lengths of time through that reach
beyond the end of the clock, and all calls fail that come after one that meets it, where there is a
cooldown. -/

namespace DiscordBot

open Cooldown (Call)
open Cooldown.Throttler

def CommandSection.HasEndlessCooldown (s : CommandSection) : Prop :=
  s.cooldown.getD 0 ≠ 0 ∧ ¬s.cooldownScale.getD 60 < 18446744073709551616

instance (s : CommandSection) : Decidable s.HasEndlessCooldown :=
  inferInstanceAs (Decidable (_ ∧ _))

lemma CommandSection.Usable.scale_pos {s : CommandSection} (h : s.Usable) :
    (s.cooldownScale.getD 60).isFinite = true ∧ 0 < s.cooldownScale.getD 60 := by
  cases hscale : s.cooldownScale with
  | none => decide
  | some x => exact h.scale x hscale

namespace BotConfig

variable {c : BotConfig} {r r' : Registry} {n : Nat}

/-- What a call of a command can be answered after others. -/
structure Answers {ι : Type} (commands : ι → RegisteredCommand) (earlier : List (Call ι)) (call : Call ι)
    (s : CommandSection) : Prop where
  endless : s.HasEndlessCooldown →
    reply commands earlier call = .error (unusableScale (commands call.command))
  poisoned : s.cooldown.getD 0 ≠ 0 → ¬s.HasEndlessCooldown →
    (∃ e ∈ log commands {} earlier, e.2 = .overflow) →
      reply commands earlier call = .error (.handler "throttle state poisoned")
  answered : ¬s.HasEndlessCooldown → (∀ e ∈ log commands {} earlier, e.2 ≠ .overflow) →
    reply commands earlier call = .ok () ∨
      (∃ wait, reply commands earlier call =
        .error (.cooldown (commands call.command).qualifiedName wait)) ∨
      reply commands earlier call = .overflow ∧
        ∃ period, Time.Duration.ofSeconds? (s.cooldownScale.getD 60) = some period ∧
          Time.greatestInstant < call.time + period

lemma answers {ι : Type} {commands : ι → RegisteredCommand} {earlier : List (Call ι)} {call : Call ι}
    {s : CommandSection} (hs : s.Usable) (hd : s.Describes (commands call.command))
    (hordered : Call.Ordered (earlier ++ [call])) : Answers commands earlier call s := by
  have hscale := hs.scale_pos
  have hendless : s.HasEndlessCooldown ↔ (commands call.command).cooldown ≠ 0 ∧
      Time.Duration.ofSeconds? (commands call.command).cooldownScale = none := by
    rw [CommandSection.HasEndlessCooldown, hd.cooldown, hd.cooldownScale,
      Time.Duration.ofSeconds?_eq_none_iff hscale.1 hscale.2]
  refine ⟨fun h => ?_, fun hcooldown h hover => ?_, fun h hnot => ?_⟩
  · obtain ⟨hcooldown, hnone⟩ := hendless.mp h
    exact congrArg Prod.fst (handle_of_unusable hcooldown hnone)
  · rw [← hd.cooldown] at hcooldown
    obtain ⟨period, hsome⟩ := Option.ne_none_iff_exists'.mp fun hnone => h (hendless.mpr ⟨hcooldown, hnone⟩)
    exact congrArg Prod.fst (handle_of_poisoned hcooldown hsome (poisoned_after.mpr (.inr hover)))
  · by_cases hcooldown : (commands call.command).cooldown = 0
    · exact .inl (congrArg Prod.fst (handle_of_cooldown_eq_zero hcooldown))
    obtain ⟨period, hsome⟩ := Option.ne_none_iff_exists'.mp fun hnone => h (hendless.mpr ⟨hcooldown, hnone⟩)
    have hsound : (after commands {} earlier).poisoned = false := by
      rw [← Bool.not_eq_true, poisoned_after]
      rintro (hfirst | ⟨e, he, hover⟩)
      · exact Bool.false_ne_true hfirst
      · exact hnot e he hover
    rw [← hd.cooldownScale]
    have hlate : reply commands earlier call = .overflow →
        Time.greatestInstant < call.time + period := by
      refine fun hover => Nat.lt_of_not_le fun hfits => ?_
      refine handle_ne_overflow (past_after hordered) (fun p hp => ?_) hover
      rwa [← Option.some.inj (hsome.symm.trans hp)]
    cases hreply : reply commands earlier call with
    | ok u => exact .inl rfl
    | overflow => exact .inr (.inr ⟨rfl, period, hsome, hlate hreply⟩)
    | error e =>
      unfold reply respond at hreply
      rw [handle_eq hcooldown hsome hsound] at hreply
      obtain ⟨wait, -, rfl⟩ := Result.mapError_eq_error.mp hreply
      exact .inr (.inl ⟨_, rfl⟩)

/-- All calls of the commands of a valid configuration are so answered. -/
theorem cooldowns_answered (hvalid : c.validate = .ok ()) (hregister : c.register r = (.ok n, r')) :
    ∃ added, r'.commands = r.commands ++ added ∧ ∃ hlength : added.length = c.commands.length,
      ∀ earlier (call : Call (Fin added.length)), Call.Ordered (earlier ++ [call]) →
        Answers added.get earlier call (c.commands.get (call.command.cast hlength)) := by
  obtain ⟨added, hadded, hdescribes⟩ := register_eq_ok hregister
  obtain ⟨hlength, hdescribes⟩ := List.forall₂_iff_get.mp hdescribes
  refine ⟨added, hadded, hlength.symm, fun earlier call hordered => answers ?_ ?_ hordered⟩
  · exact usable_of_validate hvalid _ (List.get_mem ..)
  · exact hdescribes _ _ call.command.isLt

def patient : BotConfig where
  bot := { token := "token", apiVersion := none, maxRetries := none, intents := none, apiBase := none,
           gatewayUrl := none }
  commands :=
    let ping : CommandSection := {
      name := "ping", kind := none, description := none, guild := none, cooldown := some 1,
      cooldownScale := some 1e20, cooldownScope := none, ephemeral := none, reply := "pong",
      group := none, subgroup := none, options := [] }
    [ping, { ping with name := "pang", cooldownScale := some 1e19 },
      { ping with name := "pong", cooldown := none }]

lemma patient_validate : patient.validate = .ok () := rfl

def patientCommands : List RegisteredCommand := (patient.register {}).2.commands

lemma patient_register : patient.register {} = (.ok 3, ⟨patientCommands⟩) := rfl

def patientCall (i : Fin patientCommands.length) : Call (Fin patientCommands.length) := ⟨i, default, 0⟩

abbrev patientPing : Fin patientCommands.length := ⟨0, by decide⟩

abbrev patientPang : Fin patientCommands.length := ⟨1, by decide⟩

theorem patient_cooldowns_answered :
    reply patientCommands.get [] (patientCall patientPing) =
        .error (unusableScale (patientCommands.get patientPing)) ∧
      reply patientCommands.get [patientCall patientPang, patientCall patientPang]
        (patientCall patientPang) = .error (.handler "throttle state poisoned") := by
  obtain ⟨added, hadded, hlength, hanswers⟩ := cooldowns_answered patient_validate patient_register
  obtain rfl : added = patientCommands := hadded.symm
  have hordered : ∀ (cs : List (Call (Fin patientCommands.length))),
      (∀ c ∈ cs, c.time = 0) → Call.Ordered cs := fun cs hcs =>
    List.pairwise_iff_forall_sublist.mpr fun {c d} hcd => by
      rw [hcs c (hcd.subset (by simp)), hcs d (hcd.subset (by simp))]
  refine ⟨(hanswers [] (patientCall patientPing) (hordered _ ?_)).endless ?_,
    (hanswers _ (patientCall patientPang) (hordered _ ?_)).poisoned ?_ ?_ ?_⟩
  · simp [patientCall]
  · change CommandSection.HasEndlessCooldown (patient.commands.get ⟨0, by decide⟩)
    decide
  · simp [patientCall]
  · change (patient.commands.get ⟨1, by decide⟩).cooldown.getD 0 ≠ 0
    decide
  · change ¬CommandSection.HasEndlessCooldown (patient.commands.get ⟨1, by decide⟩)
    decide
  · refine ⟨_, .tail _ (.head _), ?_⟩
    rfl

theorem patient_ping_fails :
    patient.validate = .ok () ∧ ∃ n r', patient.register {} = (.ok n, r') ∧
      ∃ command ∈ r'.commands, ∀ now ctx,
        let reply := (handle {} now ctx command).1
        reply ≠ .ok () ∧ ∀ name wait, reply ≠ .error (.cooldown name wait) := by
  refine ⟨patient_validate, 3, _, patient_register, patientCommands.get patientPing,
    List.get_mem .., fun now ctx => ?_⟩
  have hfails : handle {} now ctx (patientCommands.get patientPing) =
      (.error (unusableScale (patientCommands.get patientPing)), {}) :=
    handle_of_unusable (by decide) (by decide)
  rw [hfails]
  exact ⟨by simp, by simp [unusableScale]⟩

end BotConfig

end DiscordBot
