import DiscordBot.Time.Duration
import Mathlib.Algebra.Order.Field.Power
import Mathlib.Algebra.Order.Field.Rat
import Mathlib.Tactic.Linarith
import Mathlib.Tactic.FieldSimp
import Mathlib.Tactic.Positivity

/-! Lengths of time against the exact numbers of seconds that floats stand for. -/

namespace DiscordBot

namespace Decimal

def Dyadic.value (v : Dyadic) : ℚ := (if v.negative then -1 else 1) * v.mantissa * 2 ^ v.exponent

def Ratio.value (r : Ratio) : ℚ := r.num / r.den

def Nearest (n : Nat) (x : ℚ) : Prop := |(n : ℚ) - x| ≤ 1 / 2 ∧ (|(n : ℚ) - x| = 1 / 2 → Even n)

lemma Ratio.den_scaled_pos (m : Nat) (e : Int) : 0 < (Ratio.scaled m e 0).den := by
  simp [Ratio.scaled, Nat.shiftLeft_eq]

lemma Ratio.value_scaled (m : Nat) (e : Int) : (Ratio.scaled m e 0).value = m * 2 ^ e := by
  obtain ⟨k, rfl | rfl⟩ := e.eq_nat_or_neg
  · simp [Ratio.value, Ratio.scaled, Nat.shiftLeft_eq]
  · simp [Ratio.value, Ratio.scaled, Nat.shiftLeft_eq, div_eq_mul_inv]

lemma Ratio.value_mul (r : Ratio) (k : Nat) : (Ratio.mk (r.num * k) r.den).value = r.value * k := by
  rw [value, value, Nat.cast_mul, mul_div_right_comm]

lemma Ratio.le_value_iff {r : Ratio} (h : 0 < r.den) (n : Nat) : (n : ℚ) ≤ r.value ↔ n * r.den ≤ r.num := by
  rw [value, le_div_iff₀ (Nat.cast_pos.mpr h)]
  exact_mod_cast Iff.rfl

lemma Dyadic.value_eq (v : Dyadic) : v.value =
    if v.negative then -(Ratio.scaled v.mantissa v.exponent 0).value
    else (Ratio.scaled v.mantissa v.exponent 0).value := by
  rw [value, Ratio.value_scaled]
  cases v.negative <;> simp

lemma Dyadic.value_neg_iff (v : Dyadic) : v.value < 0 ↔ v.negative = true ∧ v.mantissa ≠ 0 := by
  have hpow : (0 : ℚ) < 2 ^ v.exponent := zpow_pos two_pos _
  rw [value_eq, Ratio.value_scaled]
  cases v.negative with
  | false => simpa using mul_nonneg (Nat.cast_nonneg _) hpow.le
  | true => simp [mul_pos_iff_of_pos_right hpow, Nat.pos_iff_ne_zero]

lemma Dyadic.value_of_not_neg {v : Dyadic} (h : ¬v.value < 0) :
    v.value = (Ratio.scaled v.mantissa v.exponent 0).value := by
  rw [value_eq]
  rw [value_neg_iff] at h
  split_ifs with hnegative
  · rw [Ratio.value_scaled, not_ne_iff.mp fun hne => h ⟨hnegative, hne⟩]
    simp
  · rfl

section Nearest

variable {q : Nat} {x : ℚ}

lemma nearest_of_lt_half (h₀ : 0 ≤ x) (h : x < 1 / 2) : Nearest q (q + x) := by
  have hdistance : |(q : ℚ) - (q + x)| = x := by
    rw [sub_add_cancel_left, abs_neg, abs_of_nonneg h₀]
  rw [Nearest, hdistance]
  exact ⟨h.le, fun heq => absurd heq h.ne⟩

lemma nearest_of_half_lt (h₁ : x ≤ 1) (h : 1 / 2 < x) : Nearest (q + 1) (q + x) := by
  have hdistance : |((q + 1 : Nat) : ℚ) - (q + x)| = 1 - x := by
    rw [Nat.cast_add_one, add_sub_add_left_eq_sub, abs_of_nonneg (sub_nonneg.mpr h₁)]
  rw [Nearest, hdistance]
  exact ⟨by linarith, fun heq => by linarith⟩

lemma nearest_of_even {n : Nat} (hn : n = q ∨ n = q + 1) (heven : Even n) : Nearest n (q + 1 / 2) := by
  have hdistance : |(n : ℚ) - (q + 1 / 2)| = 1 / 2 := by
    rcases hn with rfl | rfl
    · rw [sub_add_cancel_left, abs_neg, abs_of_pos one_half_pos]
    · rw [Nat.cast_add_one, add_sub_add_left_eq_sub, sub_half, abs_of_pos one_half_pos]
  rw [Nearest, hdistance]
  exact ⟨le_rfl, fun _ => heven⟩

lemma Ratio.nearest_roundEven {r : Ratio} (h : 0 < r.den) : Nearest r.roundEven r.value := by
  have hden : (0 : ℚ) < r.den := Nat.cast_pos.mpr h
  have hvalue : r.value = (r.num / r.den : Nat) + (r.num % r.den : Nat) / r.den := by
    rw [Ratio.value]
    conv_lhs => rw [← Nat.div_add_mod r.num r.den]
    push_cast
    field_simp
  have hlt : ((r.num % r.den : Nat) : ℚ) ≤ r.den := by exact_mod_cast (Nat.mod_lt _ h).le
  rw [hvalue]
  unfold roundEven
  dsimp only
  split_ifs with hsmall hlarge heven
  · refine nearest_of_lt_half (by positivity) ((div_lt_iff₀ hden).mpr ?_)
    have : (2 * (r.num % r.den : Nat) : ℚ) < r.den := by exact_mod_cast hsmall
    linarith
  · refine nearest_of_half_lt ((div_le_one hden).mpr hlt) ((lt_div_iff₀ hden).mpr ?_)
    have : (r.den : ℚ) < 2 * (r.num % r.den : Nat) := by exact_mod_cast hlarge
    linarith
  all_goals
    have htie : ((r.num % r.den : Nat) : ℚ) / r.den = 1 / 2 := by
      rw [div_eq_div_iff hden.ne' two_ne_zero]
      exact_mod_cast (show r.num % r.den * 2 = 1 * r.den by omega)
    rw [htie]
  · exact nearest_of_even (.inl rfl) (Nat.even_iff.mpr (by simpa using heven))
  · exact nearest_of_even (.inr rfl) (Nat.even_add_one.mpr fun h => heven (by simpa using Nat.even_iff.mp h))

end Nearest

end Decimal

namespace Time

open Decimal (FloatShape Nearest Ratio)

variable {x : Float} {v : Decimal.Dyadic} {d : Duration}

lemma ofSeconds?_of_finite (h : FloatShape.of x = .finite v) : Duration.ofSeconds? x =
    if v.value < 0 ∨ 2 ^ 64 ≤ v.value then none
    else
      let r := Ratio.scaled v.mantissa v.exponent 0
      some (Ratio.mk (r.num * nanosPerSecond) r.den).roundEven := by
  have hnegative : (v.negative && v.mantissa != 0) = true ↔ v.value < 0 := by
    rw [Decimal.Dyadic.value_neg_iff]
    simp
  unfold Duration.ofSeconds?
  rw [h]
  dsimp only
  by_cases hneg : v.value < 0
  · rw [if_pos (hnegative.mpr hneg), if_pos (.inl hneg)]
  · have hlarge : 0x10000000000000000 * (Ratio.scaled v.mantissa v.exponent 0).den ≤
        (Ratio.scaled v.mantissa v.exponent 0).num ↔ 2 ^ 64 ≤ v.value := by
      rw [Decimal.Dyadic.value_of_not_neg hneg, ← Ratio.le_value_iff (Ratio.den_scaled_pos ..)]
      norm_num
    rw [if_neg (hneg ∘ hnegative.mp)]
    simp only [hlarge, hneg, false_or]

lemma nearest_nanoseconds (h : ¬v.value < 0) :
    let r := Ratio.scaled v.mantissa v.exponent 0
    Nearest (Ratio.mk (r.num * nanosPerSecond) r.den).roundEven (v.value * 10 ^ 9) := by
  intro r
  have hvalue : v.value * 10 ^ 9 = (Ratio.mk (r.num * nanosPerSecond) r.den).value := by
    rw [Ratio.value_mul, Decimal.Dyadic.value_of_not_neg h]
    norm_num [r, nanosPerSecond]
  rw [hvalue]
  exact Ratio.nearest_roundEven (Ratio.den_scaled_pos v.mantissa v.exponent)

lemma ofSeconds?_eq_some (h : Duration.ofSeconds? x = some d) : ∃ v : Decimal.Dyadic,
    FloatShape.of x = .finite v ∧ 0 ≤ v.value ∧ v.value < 2 ^ 64 ∧ Nearest d (v.value * 10 ^ 9) := by
  cases hx : FloatShape.of x with
  | finite v =>
    rw [ofSeconds?_of_finite hx] at h
    split_ifs at h with hbounds
    rw [not_or, not_lt, not_le] at hbounds
    obtain rfl := Option.some.inj h
    exact ⟨v, rfl, hbounds.1, hbounds.2, nearest_nanoseconds (not_lt.mpr hbounds.1)⟩
  | infinite s =>
    rw [Duration.ofSeconds?, hx] at h
    cases h
  | nan =>
    rw [Duration.ofSeconds?, hx] at h
    cases h

lemma ofSeconds?_eq_none (h : Duration.ofSeconds? x = none) (hx : FloatShape.of x = .finite v) :
    v.value < 0 ∨ 2 ^ 64 ≤ v.value := by
  rw [ofSeconds?_of_finite hx] at h
  split_ifs at h with hbounds
  exact hbounds

end Time

end DiscordBot
