import Mathlib.Data.Nat.Log
import Mathlib.Tactic.NormNum

/-! Whole numbers of 64 bits as floats. They are finite, since no step on the way to the nearest float
carries the exponent far. -/

namespace DiscordBot.Decimal

open Float.Model (UnpackedFloat Format totalExponent)
open Float.Model.UnpackedFloat (Sign Accuracy ExtendedMantissa packComponents roundWithAccuracy
  shiftToTargetExponent unpackMantissa_packComponents unpackExponent_packComponents)

def Within (size : Nat) (top : Int) : UnpackedFloat → Prop
  | .zero _ => True
  | .finite _ m e _ => m < size ∧ e ≤ top
  | .infinity _ | .notANumber => False

variable {size bits : Nat} {top : Int} {f : UnpackedFloat} {m : Nat} {e : Int}

lemma Within.isFinite (h : Within size top f) : f.isFinite = true := by
  cases f with
  | zero | finite => rfl
  | infinity | notANumber => exact h.elim

lemma Within.mono {top' : Int} (h : Within size top f) (htop : top ≤ top') : Within size top' f := by
  cases f with
  | zero => exact trivial
  | finite => exact ⟨h.1, h.2.trans htop⟩
  | infinity | notANumber => exact h

lemma Within.neg (h : Within size top f) : Within size top f.neg := by
  cases f <;> exact h

section Packed

lemma within_unpack {b : BitVec Format.binary64.numBits} {exponent : BitVec 11}
    (hexponent : UnpackedFloat.unpackExponent b = exponent) (hfinite : exponent ≠ -1#11)
    (hleast : -1074 ≤ top) (htop : (exponent.toNat : Int) - 1075 ≤ top) :
    Within (2 ^ 53) top (UnpackedFloat.unpack Format.binary64 b) := by
  obtain rfl := hexponent
  have hmantissa : (UnpackedFloat.unpackMantissa b).toNat < 2 ^ 52 := BitVec.isLt _
  unfold UnpackedFloat.unpack
  rw [if_neg hfinite]
  by_cases hzero : UnpackedFloat.unpackExponent b = 0#11
  · rw [if_pos hzero]
    by_cases hempty : UnpackedFloat.unpackMantissa b = 0#52
    · rw [dif_pos hempty]
      trivial
    · rw [dif_neg hempty]
      refine ⟨by omega, ?_⟩
      change ((UnpackedFloat.unpackExponent b).toNat : Int) - 1075 + 1 ≤ top
      rw [hzero]
      exact hleast
  · rw [if_neg hzero]
    exact ⟨(1#1 ++ UnpackedFloat.unpackMantissa b).isLt, htop⟩

lemma within_unpack_packComponents (s : Sign) {exponent : BitVec 11} {mantissa : BitVec 52}
    (hfinite : exponent ≠ -1#11) (hleast : -1074 ≤ top) (htop : (exponent.toNat : Int) - 1075 ≤ top) :
    Within (2 ^ 53) top
      (UnpackedFloat.unpack Format.binary64 (packComponents Format.binary64 s exponent mantissa)) :=
  within_unpack unpackExponent_packComponents hfinite hleast htop

lemma within_unpack_pack (h : Within size top f) (hleast : -1074 ≤ top) (hgreatest : top ≤ 970) :
    Within (2 ^ 53) top (Float.Model.pack f).unpack := by
  cases f with
  | infinity | notANumber => exact h.elim
  | zero s => cases s <;> trivial
  | finite s m e hm =>
    have hbias : Format.binary64.exponentBias = 1023 := by decide
    have hbiased : (e + (1023 : Nat) + (52 : Nat)).toNat ≤ 2045 := by
      have := h.2
      omega
    have hexponent : (BitVec.ofNat 11 (e + (1023 : Nat) + (52 : Nat)).toNat).toNat =
        (e + (1023 : Nat) + (52 : Nat)).toNat := by
      rw [BitVec.toNat_ofNat]
      omega
    change Within _ _ (UnpackedFloat.unpack Format.binary64
      (UnpackedFloat.pack Format.binary64 (.finite s m e hm)))
    unfold UnpackedFloat.pack
    simp only [hbias]
    rw [if_neg (by omega)]
    split
    · refine within_unpack_packComponents s ?_ hleast ?_
      · intro hones
        have := congrArg BitVec.toNat hones
        rw [hexponent] at this
        simp at this
        omega
      · rw [hexponent]
        have := h.2
        omega
    · exact within_unpack_packComponents s (by decide) hleast (by simpa using by omega)

end Packed

section Rounded

lemma shiftRight_mantissa_le (em : ExtendedMantissa) (n : Nat) : (em >>> n).mantissa ≤ em.mantissa := by
  induction n with
  | zero => exact le_rfl
  | succ n ih => exact (Nat.div_le_self _ 2).trans ih

lemma roundedMantissa_le (em : ExtendedMantissa) : em.roundedMantissa ≤ em.mantissa + 1 := by
  obtain ⟨m, round, sticky⟩ := em
  cases round <;> cases sticky <;>
    simp [ExtendedMantissa.roundedMantissa, ExtendedMantissa.accuracy, Accuracy.roundToNearestEven]
  omega

lemma shiftToTargetExponent_le (hm : m.log2 < bits) (he : e ≤ top) (hbits : 53 ≤ bits) (htop : 0 ≤ top) :
    (shiftToTargetExponent Format.binary64 m e .exact).1.mantissa ≤ m ∧
      (shiftToTargetExponent Format.binary64 m e .exact).2 ≤ top + bits - 53 := by
  refine ⟨shiftRight_mantissa_le _ _, ?_⟩
  change e + ((Format.binary64.targetExponent (totalExponent m e) - e).toNat : Int) ≤ _
  have hmantissa : Format.binary64.mantissaBits = 53 := rfl
  have hmin : Format.binary64.minExponent = -1074 := rfl
  rw [Format.targetExponent, totalExponent, hmantissa, hmin]
  omega

lemma log2_lt_of_lt (hm : m < 2 ^ bits) (hbits : 0 < bits) : m.log2 < bits := by
  by_cases hzero : m = 0
  · rw [hzero]
    exact hbits
  · exact (Nat.log2_lt hzero).mpr hm

lemma within_roundWithAccuracy (s : Sign) (hm : m < 2 ^ bits) (he : e ≤ top) (hbits : 53 ≤ bits)
    (htop : 0 ≤ top) :
    Within (m + 2) (top + 2 * bits - 105) (roundWithAccuracy Format.binary64 s m e .exact) := by
  obtain ⟨hm₁, he₁⟩ := shiftToTargetExponent_le (log2_lt_of_lt hm (by omega)) he hbits htop
  unfold roundWithAccuracy
  generalize shiftToTargetExponent Format.binary64 m e .exact = first at hm₁ he₁ ⊢
  have hrounded := roundedMantissa_le first.1
  have hm₂ : first.1.roundedMantissa < 2 ^ (bits + 1) := by
    rw [Nat.pow_succ]
    omega
  obtain ⟨hm₃, he₃⟩ := shiftToTargetExponent_le (log2_lt_of_lt hm₂ (by omega)) he₁ (by omega) (by omega)
  dsimp only
  generalize shiftToTargetExponent Format.binary64 first.1.roundedMantissa first.2 .exact = second at *
  by_cases hzero : second.1.mantissa = 0
  · rw [dif_pos hzero]
    trivial
  · rw [dif_neg hzero]
    refine ⟨?_, ?_⟩ <;> omega

lemma within_mul {f g : UnpackedFloat} {bits' : Nat} {top' : Int} (hf : Within (2 ^ bits) top f)
    (hg : Within (2 ^ bits') top' g) (hbits : 53 ≤ bits + bits') (htop : 0 ≤ top + top') :
    ∃ size, Within size (top + top' + 2 * (bits + bits') - 105) (UnpackedFloat.mul Format.binary64 f g) := by
  cases f with
  | infinity | notANumber => exact hf.elim
  | zero s =>
    cases g with
    | infinity | notANumber => exact hg.elim
    | zero | finite => exact ⟨0, trivial⟩
  | finite s m e hm =>
    cases g with
    | infinity | notANumber => exact hg.elim
    | zero => exact ⟨0, trivial⟩
    | finite s' m' e' hm' =>
      have hproduct : m * m' < 2 ^ (bits + bits') := by
        rw [Nat.pow_add]
        exact Nat.mul_lt_mul'' hf.1 hg.1
      have hrounded := within_roundWithAccuracy (s * s') hproduct (Int.add_le_add hf.2 hg.2) hbits htop
      rw [Nat.cast_add] at hrounded
      exact ⟨_, hrounded⟩

end Rounded

lemma within_round (s : Sign) (hm : m < 2 ^ 64) :
    ∃ size, Within size 127 (UnpackedFloat.round Format.binary64 s m 0) := by
  have htarget : -52 ≤ Format.binary64.targetExponent (totalExponent m 0) := by
    have hmantissa : Format.binary64.mantissaBits = 53 := rfl
    have hmin : Format.binary64.minExponent = -1074 := rfl
    rw [Format.targetExponent, totalExponent, hmantissa, hmin]
    omega
  unfold UnpackedFloat.round UnpackedFloat.decreaseExponent
  generalize Format.binary64.targetExponent (totalExponent m 0) = target at htarget
  have hshift : (0 - target).toNat ≤ 52 := by omega
  have hsize : m <<< (0 - target).toNat < 2 ^ 116 := by
    rw [Nat.shiftLeft_eq]
    calc m * 2 ^ (0 - target).toNat
        ≤ m * 2 ^ 52 := Nat.mul_le_mul_left m (Nat.pow_le_pow_right (by decide) hshift)
      _ < 2 ^ 64 * 2 ^ 52 := Nat.mul_lt_mul_of_pos_right hm (by decide)
      _ = 2 ^ 116 := by norm_num
  exact ⟨_, within_roundWithAccuracy s hsize (by omega) (by decide) le_rfl⟩

lemma within_ofUInt64 (n : UInt64) : ∃ size, Within size 127 (UnpackedFloat.ofUInt64 Format.binary64 n) := by
  have hn := n.toNat_lt
  unfold UnpackedFloat.ofUInt64 UnpackedFloat.ofNat UnpackedFloat.ofInt UnpackedFloat.normalize
  split
  · exact within_round _ (by omega)
  · exact ⟨0, trivial⟩
  · exact within_round _ (by omega)

lemma within_one : Within (2 ^ 53) 0 (Float.ofBits 0x3FF0000000000000).toModel.unpack := by
  have hone : (Float.ofBits 0x3FF0000000000000).toModel.unpack =
      .finite .positive (2 ^ 52) (-52) (by decide) := rfl
  rw [hone]
  exact ⟨by decide, by decide⟩

lemma within_ofScientific {n : Nat} (hn : n < 2 ^ 64) :
    ∃ size, Within size 131 (UnpackedFloat.ofScientific Format.binary64 n 0) := by
  have hbits : Format.binary64.mantissaBits = 53 := rfl
  have hpower : (2 : Int) ^ Format.binary64.exponentBits = 2048 := rfl
  unfold UnpackedFloat.ofScientific
  by_cases hzero : n = 0
  · rw [dif_pos hzero]
    exact ⟨0, trivial⟩
  · rw [dif_neg hzero, if_neg (by omega), if_neg (by omega), if_pos le_rfl]
    have hsize : n <<< Format.binary64.mantissaBits < 2 ^ 117 := by
      rw [hbits, Nat.shiftLeft_eq]
      omega
    have hdown : -(Format.binary64.mantissaBits : Int) ≤ 0 := by
      rw [hbits]
      decide
    -- For any two floats, since the product of these two would be computed.
    have hproduct : ∀ f g, Within (2 ^ 117) 0 f → Within (2 ^ 1) 0 g →
        ∃ size, Within size 131 (UnpackedFloat.mul Format.binary64 f g) := by
      intro f g hf hg
      obtain ⟨size, h⟩ := within_mul hf hg (by decide) le_rfl
      exact ⟨size, h.mono (by norm_num)⟩
    exact hproduct _ _ ⟨hsize, hdown⟩ ⟨by decide, le_rfl⟩

lemma within_ofNat {n : Nat} (hn : n < 2 ^ 64) : Within (2 ^ 53) 300 (Float.ofNat n).toModel.unpack := by
  change Within _ _ (Float.ofScientific n false 0).toModel.unpack
  unfold Float.ofScientific
  split
  · obtain ⟨size, hconverted⟩ := within_ofUInt64 n.toUInt64
    obtain ⟨size', hproduct⟩ := within_mul (within_unpack_pack hconverted (by decide) (by decide))
      within_one (by decide) (by decide)
    exact within_unpack_pack (hproduct.mono (by decide)) (by decide) (by decide)
  · obtain ⟨size, hscientific⟩ := within_ofScientific hn
    exact within_unpack_pack (hscientific.mono (by decide)) (by decide) (by decide)

lemma isFinite_ofInt {n : Int} (hn : -0x8000000000000000 ≤ n ∧ n ≤ 0xFFFFFFFFFFFFFFFF) :
    (Float.ofInt n).isFinite = true := by
  cases n with
  | ofNat n =>
    have hbound : n < 2 ^ 64 := by
      have := hn.2
      simp only [Int.ofNat_eq_natCast] at this
      omega
    exact (within_ofNat hbound).isFinite
  | negSucc n =>
    have hbound : n.succ < 2 ^ 64 := by
      have := hn.1
      omega
    exact (within_unpack_pack (within_ofNat hbound).neg (by decide) (by decide)).isFinite

end DiscordBot.Decimal
