import DiscordBot.Time.Duration
import Mathlib.Tactic.Lemma
import Mathlib.Tactic.NormNum

/-! Positive numbers of seconds. They are lengths of time below `2^64` and only there. -/

namespace DiscordBot

namespace Decimal

open Float.Model (UnpackedFloat Format)
open Float.Model.UnpackedFloat (Sign)

variable {x : Float} {m : Nat} {e : Int} {hm : 0 < m}

lemma toNat_unpackExponent (b : BitVec Format.binary64.numBits) :
    (UnpackedFloat.unpackExponent b : BitVec 11).toNat = b.toNat >>> 52 % 0x800 := by
  change (BitVec.cast _ (BitVec.extractLsb 62 52 b)).toNat = _
  simp

lemma toNat_unpackMantissa (b : BitVec Format.binary64.numBits) :
    (UnpackedFloat.unpackMantissa b : BitVec 52).toNat = b.toNat % 0x10000000000000 := by
  change (BitVec.cast _ (BitVec.extractLsb 51 0 b)).toNat = _
  simp

lemma toNat_unpackSign (b : BitVec Format.binary64.numBits) :
    (UnpackedFloat.unpackSign b).toNat = b.toNat >>> 63 % 2 := by
  change (BitVec.cast _ (BitVec.extractLsb 63 63 b)).toNat = _
  simp

lemma sign_eq_positive {b : BitVec 1} (h : Sign.ofBitVec b = .positive) : b.toNat = 0 := by
  unfold Sign.ofBitVec at h
  split at h
  · rename_i hzero
    rw [hzero]
    rfl
  · cases h

lemma shape_of_unpack {b : BitVec Format.binary64.numBits}
    (h : UnpackedFloat.unpack Format.binary64 b = .finite .positive m e hm) :
    FloatShape.ofBits b.toNat = .finite ⟨false, m, e⟩ ∧ m < 2 ^ 53 ∧ (-1074 < e → 2 ^ 52 ≤ m) := by
  have hexponent := toNat_unpackExponent b
  have hmantissa := toNat_unpackMantissa b
  have hsign := toNat_unpackSign b
  have hrange : b.toNat % 0x10000000000000 < 2 ^ 52 := Nat.mod_lt _ (by decide)
  unfold UnpackedFloat.unpack at h
  unfold FloatShape.ofBits
  by_cases hones : UnpackedFloat.unpackExponent b = -1#11
  · rw [if_pos hones] at h
    obtain ⟨-, h⟩ | ⟨-, h⟩ := ite_eq_iff.mp h <;> cases h
  · rw [if_neg hones] at h
    have hgreatest : b.toNat >>> 52 % 0x800 ≠ 2047 := by
      rw [← hexponent]
      exact fun heq => hones (BitVec.eq_of_toNat_eq heq)
    by_cases hzero : UnpackedFloat.unpackExponent b = 0#11
    · rw [if_pos hzero] at h
      rw [hzero] at hexponent
      obtain ⟨_, h⟩ | ⟨_, h⟩ := dite_eq_iff.mp h
      · cases h
      · injection h with hs hmant he
        rw [sign_eq_positive hs] at hsign
        have hleast : e = -1074 := by
          rw [← he, hzero]
          rfl
        rw [← hexponent, ← hsign, ← hmantissa, hmant, hleast]
        refine ⟨rfl, by omega, by omega⟩
    · rw [if_neg hzero] at h
      injection h with hs hmant he
      rw [sign_eq_positive hs] at hsign
      have hnormal : b.toNat >>> 52 % 0x800 ≠ 0 := by
        rw [← hexponent]
        exact fun heq => hzero (BitVec.eq_of_toNat_eq heq)
      have hsum : b.toNat % 0x10000000000000 + 0x10000000000000 = m := by
        rw [← hmant, BitVec.toNat_append, hmantissa, ← Nat.shiftLeft_add_eq_or_of_lt hrange]
        exact Nat.add_comm _ _
      have hbias : (b.toNat >>> 52 % 0x800 : Nat) - (1075 : Int) = e := by
        rw [← he, hexponent]
        rfl
      simp only [hsum, hbias, ← hsign, beq_iff_eq, hgreatest, hnormal, if_false]
      refine ⟨rfl, by omega, by omega⟩

end Decimal

namespace Time

open Float.Model (UnpackedFloat Format)

lemma unpack_of_pos {x : Float} (hfinite : x.isFinite = true) (hpos : 0 < x) :
    ∃ m e hm, x.toModel.unpack = .finite .positive m e hm := by
  change x.toModel.unpack.isFinite = true at hfinite
  have hless : ((UnpackedFloat.zero .positive).compare x.toModel.unpack == some .lt) = true :=
    of_decide_eq_true hpos
  cases h : x.toModel.unpack with
  | infinity | notANumber =>
    rw [h] at hfinite
    cases hfinite
  | zero s =>
    rw [h] at hless
    cases hless
  | finite s m e hm =>
    cases s with
    | positive => exact ⟨m, e, hm, rfl⟩
    | negative =>
      rw [h] at hless
      cases hless

theorem Duration.ofSeconds?_eq_none_iff {x : Float} (hfinite : x.isFinite = true) (hpos : 0 < x) :
    ofSeconds? x = none ↔ ¬x < 18446744073709551616 := by
  obtain ⟨m, e, hm, hx⟩ := unpack_of_pos hfinite hpos
  obtain ⟨hshape, hsize, hnormal⟩ := Decimal.shape_of_unpack hx
  have hless : x < 18446744073709551616 ↔ e < 12 := by
    have hcompare : x < 18446744073709551616 ↔
        ((UnpackedFloat.finite .positive m e hm).compare (.finite .positive (2 ^ 52) 12 (by decide))
          == some .lt) = true := by
      rw [← hx]
      exact decide_eq_true_iff
    rw [hcompare, beq_iff_eq]
    change some ((compare e 12).then (compare m (2 ^ 52))) = some .lt ↔ e < 12
    rw [Option.some.injEq, Ordering.then_eq_lt, compare_lt_iff_lt, compare_eq_iff_eq, compare_lt_iff_lt]
    omega
  have hdecode : ofSeconds? x = none ↔ 0x10000000000000000 * 2 ^ (-e).toNat ≤ m * 2 ^ e.toNat := by
    change Decimal.FloatShape.of x = _ at hshape
    unfold ofSeconds?
    rw [hshape]
    simp [Decimal.Ratio.scaled, Nat.shiftLeft_eq]
  rw [hless, hdecode]
  constructor
  · intro hlarge hsmall
    have hshift : 2 ^ e.toNat ≤ 2 ^ 11 := Nat.pow_le_pow_right (by decide) (by omega)
    have hden : 0 < 2 ^ (-e).toNat := Nat.two_pow_pos _
    have hbound : m * 2 ^ e.toNat < 2 ^ 53 * 2 ^ 11 :=
      Nat.mul_lt_mul_of_lt_of_le hsize hshift (Nat.two_pow_pos _)
    omega
  · intro hlarge
    have hshift : 2 ^ 12 ≤ 2 ^ e.toNat := Nat.pow_le_pow_right (by decide) (by omega)
    have hden : (-e).toNat = 0 := by omega
    rw [hden]
    calc 0x10000000000000000 * 2 ^ 0 = 2 ^ 52 * 2 ^ 12 := by norm_num
      _ ≤ m * 2 ^ e.toNat := Nat.mul_le_mul (hnormal (by omega)) hshift

end Time

end DiscordBot
