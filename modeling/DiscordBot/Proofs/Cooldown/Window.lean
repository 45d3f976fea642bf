import DiscordBot.Cooldown.SlidingWindow
import Mathlib.Data.List.Basic

/-! What a sliding window knows of the calls that were let through: those that still count. -/

namespace DiscordBot.Cooldown

def recent (period now : Nat) (ts : List Nat) : List Nat :=
  ts.filter fun t => decide (now < t + period ∧ t ≤ now)

variable {period now later limit : Nat} {ts us : List Nat}

lemma recent_append : recent period now (ts ++ us) = recent period now ts ++ recent period now us :=
  List.filter_append ..

lemma recent_recent (h : now ≤ later) (hts : ∀ t ∈ ts, t ≤ now) :
    recent period later (recent period now ts) = recent period later ts := by
  unfold recent
  rw [List.filter_filter]
  apply List.filter_congr
  intro t ht
  have hpast := hts t ht
  rw [← Bool.decide_and]
  apply decide_eq_decide.mpr
  omega

lemma dropWhile_old (hordered : ts.Pairwise (· ≤ ·)) (hts : ∀ t ∈ ts, t ≤ now) :
    ts.dropWhile (fun t => decide (period ≤ now - t)) = recent period now ts := by
  induction ts with
  | nil => rfl
  | cons t ts ih =>
    obtain ⟨hfirst, hordered⟩ := List.pairwise_cons.mp hordered
    obtain ⟨ht, hts⟩ := List.forall_mem_cons.mp hts
    by_cases hold : period ≤ now - t
    · have hgone : ¬(now < t + period ∧ t ≤ now) := by omega
      rw [List.dropWhile_cons_of_pos (by simpa using hold), ih hordered hts, recent, recent,
        List.filter_cons_of_neg (by simpa using hgone)]
    · -- All behind the first that counts are later and count as well.
      have hall : ∀ u ∈ t :: ts, now < u + period ∧ u ≤ now := by
        intro u hu
        have hle : t ≤ u ∧ u ≤ now := by
          rcases List.mem_cons.mp hu with rfl | hu
          · exact ⟨Nat.le_refl _, ht⟩
          · exact ⟨hfirst u hu, hts u hu⟩
        omega
      rw [List.dropWhile_cons_of_neg (by simpa using hold), recent,
        List.filter_eq_self.mpr (by simpa using hall)]

namespace SlidingWindow

section Hit

variable {w : SlidingWindow}

lemma mem_of_mem_prune {t : Nat} (h : t ∈ (w.prune now period).calls) : t ∈ w.calls :=
  (List.dropWhile_sublist _).subset h

lemma past_hit (hpast : ∀ t ∈ w.calls, t ≤ now) : ∀ t ∈ (w.hit now limit period).2.calls, t ≤ now := by
  have hkept : ∀ t ∈ (w.prune now period).calls, t ≤ now := fun t ht => hpast t (mem_of_mem_prune ht)
  unfold hit
  dsimp only
  split
  · cases (w.prune now period).freeAt? now period <;> exact hkept
  · exact List.forall_mem_append.mpr ⟨hkept, by simp⟩

lemma hit_ne_overflow (limit : Nat) (hpast : ∀ t ∈ w.calls, t ≤ now)
    (hfits : now + period ≤ Time.greatestInstant) : (w.hit now limit period).1 ≠ .overflow := by
  have hhead : (w.prune now period).calls.headD now ≤ now := by
    cases hcalls : (w.prune now period).calls with
    | nil => exact Nat.le_refl now
    | cons t ts => exact hpast t (mem_of_mem_prune (by rw [hcalls]; exact List.mem_cons_self))
  have hfree : (w.prune now period).freeAt? now period =
      some ((w.prune now period).calls.headD now + period) :=
    if_pos (Nat.le_trans (Nat.add_le_add_right hhead period) hfits)
  unfold hit
  dsimp only
  rw [hfree]
  split <;> nofun

end Hit

structure Covers (w : SlidingWindow) (period now : Nat) (ts : List Nat) : Prop where
  ordered : w.calls.Pairwise (· ≤ ·)
  past : ∀ t ∈ w.calls, t ≤ now
  recent_eq : ∀ later, now ≤ later → recent period later w.calls = recent period later ts

variable {w : SlidingWindow}

lemma covers_empty : ({} : SlidingWindow).Covers period now [] where
  ordered := .nil
  past := by simp
  recent_eq _ _ := rfl

lemma Covers.mono (h : w.Covers period now ts) (hle : now ≤ later) : w.Covers period later ts where
  ordered := h.ordered
  past t ht := Nat.le_trans (h.past t ht) hle
  recent_eq _ hlater := h.recent_eq _ (Nat.le_trans hle hlater)

lemma Covers.prune (h : w.Covers period now ts) : w.prune now period = ⟨recent period now ts⟩ := by
  rw [← h.recent_eq now (Nat.le_refl _), ← dropWhile_old h.ordered h.past]
  rfl

def answer (period now limit : Nat) (counting : List Nat) : Result Time.Duration Unit :=
  if limit ≤ counting.length then
    match Time.addTo? (counting.headD now) period with
    | some t => .error (t - now)
    | none => .overflow
  else .ok ()

lemma isOk_answer {counting : List Nat} :
    (answer period now limit counting).isOk = true ↔ counting.length < limit := by
  unfold answer
  split
  · rename_i hmany
    cases Time.addTo? (counting.headD now) period <;> simpa [Result.isOk]
  · rename_i hfew
    simpa [Result.isOk] using hfew

lemma Covers.hit_eq (h : w.Covers period now ts) :
    w.hit now limit period = (answer period now limit (recent period now ts),
      ⟨if limit ≤ (recent period now ts).length then recent period now ts
        else recent period now ts ++ [now]⟩) := by
  unfold hit answer freeAt?
  dsimp only
  rw [h.prune]
  split
  · dsimp only
    cases Time.addTo? ((recent period now ts).headD now) period <;> rfl
  · rfl

lemma Covers.pruned (h : w.Covers period now ts) : Covers ⟨recent period now ts⟩ period now ts := by
  have hkept : recent period now ts = recent period now w.calls := (h.recent_eq now (Nat.le_refl _)).symm
  constructor
  · rw [hkept]
    exact h.ordered.filter _
  · intro t ht
    exact (of_decide_eq_true (List.mem_filter.mp ht).2).2
  · intro later hle
    rw [hkept, recent_recent hle h.past, h.recent_eq later hle]

lemma Covers.hit (h : w.Covers period now ts) (limit : Nat) :
    (w.hit now limit period).2.Covers period now
      (if limit ≤ (recent period now ts).length then ts else ts ++ [now]) := by
  rw [h.hit_eq]
  split
  · exact h.pruned
  · refine ⟨?_, ?_, ?_⟩
    · refine List.pairwise_append.mpr ⟨h.pruned.ordered, List.pairwise_singleton _ _, ?_⟩
      intro t ht u hu
      rw [List.mem_singleton.mp hu]
      exact h.pruned.past t ht
    · intro t ht
      rcases List.mem_append.mp ht with ht | ht
      · exact h.pruned.past t ht
      · exact Nat.le_of_eq (List.mem_singleton.mp ht)
    · intro later hle
      rw [recent_append, recent_append, h.pruned.recent_eq later hle]

end SlidingWindow

end DiscordBot.Cooldown
