import DiscordBot.Proofs.Command.QualifiedName
import DiscordBot.Proofs.Cooldown.Calls
import Mathlib.Data.List.Nodup

/-! Cooldowns of different commands. They are kept apart by the qualified names, which differ for commands
that are typed in one guild, but not across kinds and guilds. A call that meets the end of the clock stops
all cooldowns. -/

namespace DiscordBot

open Cooldown (Call)
open Cooldown.Throttler (log reply)

namespace Registry

variable {r : Registry}

/-- Leaving out all calls of one command changes no answer to a call of another one, if both are typed in
one guild, or both for everyone, or have different qualified names, and no call meets the end of the
clock. -/
theorem Reachable.cooldowns_apart (h : r.Reachable) {a b : Fin r.commands.length} (hab : a ≠ b)
    (hnames : (r.commands.get a).app.kind = .chatInput ∧ (r.commands.get b).app.kind = .chatInput ∧
        (r.commands.get a).app.guildId = (r.commands.get b).app.guildId ∨
      (r.commands.get a).qualifiedName ≠ (r.commands.get b).qualifiedName)
    (calls : List (Call (Fin r.commands.length)))
    (hall : ∀ e ∈ log r.commands.get {} calls, e.2 ≠ .overflow)
    (hrest : ∀ e ∈ log r.commands.get {} (calls.filter fun c => c.command ≠ a), e.2 ≠ .overflow) :
    (log r.commands.get {} (calls.filter fun c => c.command ≠ a)).filter (fun e => e.1.command = b) =
      (log r.commands.get {} calls).filter fun e => e.1.command = b := by
  have hapart : (r.commands.get a).qualifiedName ≠ (r.commands.get b).qualifiedName := by
    rcases hnames with ⟨hka, hkb, hguild⟩ | hne
    · intro heq
      have hsame := h.eq_of_qualifiedName (List.get_mem _ a) (List.get_mem _ b) hka hkb hguild heq
      exact hab (List.Nodup.injective_get (List.Nodup.of_map _ h.nodup_keys) hsame)
    · exact hne
  refine (Cooldown.Throttler.log_filter (fun c => decide (c.command = b)) ?_ rfl hall rfl hrest
    fun _ _ _ => rfl).symm
  intro c _ hc d _ hkey
  have hcb : c.command = b := of_decide_eq_true hc
  have hname : (r.commands.get d.command).qualifiedName = (r.commands.get b).qualifiedName := by
    rw [← hcb]
    exact congrArg Prod.fst hkey
  exact decide_eq_true fun hda => hapart (hda ▸ hname)

def pings : Registry :=
  let handler : Option CommandHandler := some fun _ _ => .ok .none
  registerAll [
    { Declaration.chatInput "ping" with cooldown := 1, handler := handler },
    { Declaration.user "ping" with cooldown := 1, handler := handler },
    { Declaration.chatInput "pong" with cooldown := 1, handler := handler }]

lemma pings_reachable : pings.Reachable :=
  reachable_registerAll (by simp [Declaration.chatInput, Declaration.user])

abbrev typedPing : Fin pings.commands.length := ⟨0, by decide⟩

abbrev menuPing : Fin pings.commands.length := ⟨1, by decide⟩

abbrev typedPong : Fin pings.commands.length := ⟨2, by decide⟩

def pingsCall (i : Fin pings.commands.length) : Call (Fin pings.commands.length) := ⟨i, default, 0⟩

lemma pings_fit (i : Fin pings.commands.length) : (pingsCall i).Fits pings.commands.get := by
  intro period hperiod
  have hscale : ∀ j : Fin pings.commands.length, Time.Duration.ofSeconds?
      (pings.commands.get j).cooldownScale = some (Time.Duration.ofWholeSeconds 60) := by decide
  rw [← Option.some.inj ((hscale i).symm.trans hperiod)]
  change 0 + Time.Duration.ofWholeSeconds 60 ≤ Time.greatestInstant
  decide

lemma log_pings {calls : List (Call (Fin pings.commands.length))}
    (hcalls : ∀ c ∈ calls, ∃ i, c = pingsCall i) :
    ∀ e ∈ log pings.commands.get {} calls, e.2 ≠ .overflow := by
  refine Cooldown.Throttler.log_ne_overflow (List.pairwise_iff_forall_sublist.mpr ?_) fun c hc => ?_
  · intro c d hcd
    obtain ⟨i, rfl⟩ := hcalls c (hcd.subset (by simp))
    exact Nat.zero_le _
  · obtain ⟨i, rfl⟩ := hcalls c hc
    exact pings_fit i

theorem pings_apart :
    let calls := [pingsCall typedPing, pingsCall typedPong, pingsCall typedPing, pingsCall typedPong]
    (log pings.commands.get {} (calls.filter fun c => c.command ≠ typedPing)).filter
        (fun e => e.1.command = typedPong) =
      (log pings.commands.get {} calls).filter fun e => e.1.command = typedPong :=
  pings_reachable.cooldowns_apart (by decide) (Or.inl (by decide)) _
    (log_pings (by simp [pingsCall])) (log_pings (by simp [pingsCall]))

theorem pings_share_cooldown :
    pings.Reachable ∧ ∃ a b : Fin pings.commands.length, a ≠ b ∧
      (pings.commands.get a).key ≠ (pings.commands.get b).key ∧
      ∃ calls, (log pings.commands.get {} (calls.filter fun c => c.command ≠ a)).filter
          (fun e => e.1.command = b) ≠
        (log pings.commands.get {} calls).filter fun e => e.1.command = b := by
  refine ⟨pings_reachable, typedPing, menuPing, by decide, by decide,
    [pingsCall typedPing, pingsCall menuPing], ?_⟩
  intro heq
  have hallowed := congrArg (List.map fun e => e.2.isOk) heq
  exact absurd hallowed (by decide)

end Registry

end DiscordBot
