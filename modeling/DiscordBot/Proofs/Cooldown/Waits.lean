import DiscordBot.Proofs.Cooldown.Window
import Mathlib.Data.List.Induction

/-! The wait that a refused call is told. Until it is over all calls are refused, and the next one then is
let through. -/

namespace DiscordBot.Cooldown.SlidingWindow

def after (limit period : Nat) (ts : List Nat) : SlidingWindow :=
  ts.foldl (fun w t => (w.hit t limit period).2) {}

def reply (limit period : Nat) (ts : List Nat) (t : Nat) : Result Time.Duration Unit :=
  ((after limit period ts).hit t limit period).1

structure Within (limit now : Nat) (w : SlidingWindow) : Prop where
  size_le : w.size ≤ limit
  past : ∀ t ∈ w.calls, t ≤ now

variable {w : SlidingWindow} {limit period wait first now t u : Nat} {rest ts : List Nat}

lemma after_concat :
    after limit period (ts ++ [t]) = ((after limit period ts).hit t limit period).2 := by
  simp [after]

section Prune

lemma size_prune_le : (w.prune now period).size ≤ w.size :=
  (List.dropWhile_sublist _).length_le

lemma prune_of_recent (hcalls : w.calls = first :: rest) (hpast : first ≤ u)
    (hrecent : u < first + period) : w.prune u period = w := by
  have hkept : ¬period ≤ u - first := by omega
  obtain ⟨calls⟩ := w
  obtain rfl : calls = first :: rest := hcalls
  simp [prune, hkept]

lemma size_prune_of_old (hcalls : w.calls = first :: rest) (hold : first + period ≤ u) :
    (w.prune u period).size < w.size := by
  have hgone : period ≤ u - first := by omega
  have hdropped : w.prune u period = prune ⟨rest⟩ u period := by simp [prune, hcalls, hgone]
  have hrest : (prune ⟨rest⟩ u period).size ≤ rest.length := size_prune_le
  rw [hdropped, size.eq_def w, hcalls]
  exact Nat.lt_succ_of_le hrest

lemma lt_of_prune_cons (h : (w.prune now period).calls = first :: rest) : now < first + period := by
  have hkept : decide (period ≤ now - first) = false := by
    have hhead := List.head?_dropWhile_not (fun t => decide (period ≤ now - t)) w.calls
    rwa [show w.calls.dropWhile (fun t => decide (period ≤ now - t)) = first :: rest from h] at hhead
  rw [decide_eq_false_iff_not] at hkept
  omega

end Prune

lemma Within.mono (h : w.Within limit now) (hle : now ≤ t) : w.Within limit t :=
  ⟨h.size_le, fun s hs => Nat.le_trans (h.past s hs) hle⟩

lemma Within.hit (h : w.Within limit t) : (w.hit t limit period).2.Within limit t := by
  refine ⟨?_, past_hit h.past⟩
  have hkept : (w.prune t period).size ≤ limit := Nat.le_trans size_prune_le h.size_le
  unfold SlidingWindow.hit
  dsimp only
  split
  · cases (w.prune t period).freeAt? t period <;> exact hkept
  · rename_i hfew
    rw [size, List.length_append, List.length_singleton]
    omega

lemma within_after (hordered : (ts ++ [t]).Pairwise (· ≤ ·)) :
    (after limit period ts).Within limit t := by
  induction ts using List.reverseRecOn generalizing t with
  | nil => exact ⟨Nat.zero_le _, by simp [after]⟩
  | append_singleton ts s ih =>
    obtain ⟨hinit, -, hlast⟩ := List.pairwise_append.mp hordered
    rw [after_concat]
    exact (ih hinit).hit.mono (hlast s (by simp) t (List.mem_singleton_self t))

structure Full (limit period first : Nat) (w : SlidingWindow) : Prop where
  calls : ∃ rest, w.calls = first :: rest
  size : w.size = limit
  fits : first + period ≤ Time.greatestInstant

lemma Full.refuses (h : w.Full limit period first) (hpast : first ≤ u) (hrecent : u < first + period) :
    w.hit u limit period = (.error (first + period - u), w) := by
  obtain ⟨rest, hcalls⟩ := h.calls
  have hlimit : limit ≤ w.calls.length := Nat.le_of_eq h.size.symm
  have hfree : w.freeAt? u period = some (first + period) := by
    rw [freeAt?, hcalls, List.headD_cons]
    exact if_pos h.fits
  unfold SlidingWindow.hit
  rw [prune_of_recent hcalls hpast hrecent]
  dsimp only
  rw [if_pos hlimit, hfree]

lemma Full.allows (h : w.Full limit period first) (hold : first + period ≤ u) :
    (w.hit u limit period).1 = .ok () := by
  obtain ⟨rest, hcalls⟩ := h.calls
  have hfew : ¬limit ≤ (w.prune u period).calls.length := by
    have hless := size_prune_of_old hcalls hold
    rw [h.size] at hless
    exact Nat.not_le.mpr hless
  simp [hit, hfew]

lemma Within.full (h : w.Within limit t) (hlimit : 0 < limit)
    (hrefused : (w.hit t limit period).1 = .error wait) :
    ∃ first, (w.hit t limit period).2.Full limit period first ∧ first ≤ t ∧ t < first + period ∧
      wait = first + period - t := by
  unfold SlidingWindow.hit at hrefused ⊢
  dsimp only at hrefused ⊢
  split at hrefused
  · rename_i hmany
    rw [if_pos hmany]
    obtain ⟨first, rest, hcalls⟩ := List.exists_cons_of_length_pos (Nat.lt_of_lt_of_le hlimit hmany)
    have hfirst : first ∈ (w.prune t period).calls := by simp [hcalls]
    have hsize : (w.prune t period).size ≤ limit := Nat.le_trans size_prune_le h.size_le
    have hfree : (w.prune t period).freeAt? t period = Time.addTo? first period := by
      rw [freeAt?, hcalls, List.headD_cons]
    rw [hfree] at hrefused ⊢
    by_cases hfits : first + period ≤ Time.greatestInstant
    · rw [Time.addTo?, if_pos hfits] at hrefused ⊢
      exact ⟨first, ⟨⟨rest, hcalls⟩, Nat.le_antisymm hsize hmany, hfits⟩,
        h.past first (mem_of_mem_prune hfirst), lt_of_prune_cons hcalls,
        (Result.error.inj hrefused).symm⟩
    · rw [Time.addTo?, if_neg hfits] at hrefused
      cases hrefused
  · cases hrefused

lemma after_refused {earlier between : List Nat} (hfull : (after limit period earlier).Full limit period first)
    (hbetween : ∀ u ∈ between, first ≤ u ∧ u < first + period) :
    after limit period (earlier ++ between) = after limit period earlier := by
  induction between using List.reverseRecOn with
  | nil => rw [List.append_nil]
  | append_singleton between u ih =>
    obtain ⟨hinit, hlast⟩ := List.forall_mem_append.mp hbetween
    obtain ⟨hpast, hrecent⟩ := hlast u (List.mem_singleton_self u)
    rw [← List.append_assoc, after_concat, ih hinit, hfull.refuses hpast hrecent]

/-- A refused call is told how long to wait, which is no longer than the period. All later calls before
that time has passed are refused as well, and told to wait for the rest of it; the first one after it is let
through. -/
theorem wait_exact (hlimit : 0 < limit) {earlier : List Nat}
    (hordered : (earlier ++ [t]).Pairwise (· ≤ ·)) (hrefused : reply limit period earlier t = .error wait) :
    0 < wait ∧ wait ≤ period ∧
      ∀ between u, (t :: between ++ [u]).Pairwise (· ≤ ·) →
        (u < t + wait → reply limit period (earlier ++ t :: between) u = .error (t + wait - u)) ∧
        ((∀ s ∈ between, s < t + wait) → t + wait ≤ u →
          reply limit period (earlier ++ t :: between) u = .ok ()) := by
  obtain ⟨first, hfull, hpast, hrecent, rfl⟩ := (within_after hordered).full hlimit hrefused
  have hend : t + (first + period - t) = first + period := by omega
  rw [← after_concat] at hfull
  refine ⟨by omega, by omega, fun between u hlater => ?_⟩
  have hnext : ∀ s ∈ between ++ [u], t ≤ s := (List.pairwise_cons.mp hlater).1
  have hu : t ≤ u := hnext u (by simp)
  rw [hend, List.append_cons]
  -- As long as all calls are refused, the window stays as it was after the first of them.
  have hsame : (∀ s ∈ between, s < first + period) →
      after limit period (earlier ++ [t] ++ between) = after limit period (earlier ++ [t]) :=
    fun h => after_refused hfull fun s hs =>
      ⟨Nat.le_trans hpast (hnext s (List.mem_append_left _ hs)), h s hs⟩
  refine ⟨fun hsoon => ?_, fun hbetween hlate => ?_⟩
  · have hbefore : ∀ s ∈ between, s ≤ u := fun s hs =>
      (List.pairwise_append.mp (List.pairwise_cons.mp hlater).2).2.2 s hs u (List.mem_singleton_self u)
    rw [reply, hsame fun s hs => Nat.lt_of_le_of_lt (hbefore s hs) hsoon,
      hfull.refuses (Nat.le_trans hpast hu) hsoon]
  · rw [reply, hsame hbetween, hfull.allows hlate]

theorem pair_wait_exact :
    reply 2 10 [0, 4] 6 = .error 4 ∧ reply 2 10 [0, 4, 6, 7] 9 = .error 1 ∧
      reply 2 10 [0, 4, 6, 7] 10 = .ok () := by
  have hrefused : reply 2 10 [0, 4] 6 = .error 4 := rfl
  obtain ⟨-, -, hlater⟩ := wait_exact (by decide) (by decide) hrefused
  exact ⟨hrefused, (hlater [7] 9 (by decide)).1 (by decide),
    (hlater [7] 10 (by decide)).2 (by decide) (by decide)⟩

end DiscordBot.Cooldown.SlidingWindow
