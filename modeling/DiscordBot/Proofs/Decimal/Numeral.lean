import DiscordBot.Decimal.Integer
import Mathlib.Tactic.Lemma

/-! Whole numbers in decimal digits, and that reading takes them and nothing else. -/

namespace DiscordBot.Decimal

def Numeral (cs : List Char) (n : Nat) : Prop :=
  ∃ digits, (cs = digits ∨ cs = '+' :: digits) ∧ digits ≠ [] ∧ (∀ c ∈ digits, c.isDigit = true) ∧
    Nat.ofDigitChars 10 digits 0 = n

lemma isDigit_iff {c : Char} : isDigit c = true ↔ c.isDigit = true := by
  simp [isDigit, Char.isDigit, Char.le_def, UInt32.le_iff_toNat_le]

lemma isDigit_of_mem_toDigits {n : Nat} {c : Char} (hc : c ∈ Nat.toDigits 10 n) : isDigit c = true :=
  isDigit_iff.mpr (Nat.isDigit_of_mem_toDigits (by decide) (by decide) hc)

lemma le_ofDigitChars (n : Nat) (cs : List Char) : n ≤ Nat.ofDigitChars 10 cs n := by
  rw [Nat.ofDigitChars_eq_ofDigitChars_zero]
  have hmul : n ≤ 10 ^ cs.length * n := Nat.le_mul_of_pos_left n (Nat.pow_pos (by decide))
  exact Nat.le_add_right_of_le hmul

lemma readDigits_eq_ok {max n m : Nat} {cs : List Char} (hn : n ≤ max) :
    readDigits max n cs = .ok m ↔
      (∀ c ∈ cs, isDigit c = true) ∧ Nat.ofDigitChars 10 cs n = m ∧ m ≤ max := by
  induction cs generalizing n with
  | nil =>
    simp only [readDigits, Except.ok.injEq, List.not_mem_nil, false_implies, implies_true,
      Nat.ofDigitChars_nil, true_and]
    exact ⟨fun h => ⟨h, h ▸ hn⟩, And.left⟩
  | cons c cs ih =>
    have hnext : n * 10 + digitValue c = 10 * n + (c.toNat - '0'.toNat) := by
      simp [digitValue, Nat.mul_comm]
    rw [readDigits, Nat.ofDigitChars_cons, ← hnext]
    by_cases hc : isDigit c = true
    · by_cases hle : n * 10 + digitValue c ≤ max
      · rw [if_pos hc, if_pos hle, ih hle]
        simp [hc]
      · rw [if_pos hc, if_neg hle]
        have hgrow := le_ofDigitChars (n * 10 + digitValue c) cs
        simp only [reduceCtorEq, false_iff]
        rintro ⟨-, rfl, hmax⟩
        omega
    · rw [if_neg hc]
      simp [hc]

lemma numeral_plus {cs : List Char} {n : Nat} : Numeral ('+' :: cs) n ↔
    cs ≠ [] ∧ (∀ c ∈ cs, c.isDigit = true) ∧ Nat.ofDigitChars 10 cs 0 = n := by
  constructor
  · rintro ⟨digits, rfl | heq, hne, hdigits, hn⟩
    · exact absurd (hdigits '+' List.mem_cons_self) (by decide)
    · obtain rfl := (List.cons.inj heq).2
      exact ⟨hne, hdigits, hn⟩
  · rintro ⟨hne, hdigits, hn⟩
    exact ⟨cs, .inr rfl, hne, hdigits, hn⟩

lemma numeral_of_ne_plus {c : Char} {cs : List Char} {n : Nat} (hc : c ≠ '+') : Numeral (c :: cs) n ↔
    (∀ d ∈ c :: cs, d.isDigit = true) ∧ Nat.ofDigitChars 10 (c :: cs) 0 = n := by
  constructor
  · rintro ⟨digits, rfl | heq, -, hdigits, hn⟩
    · exact ⟨hdigits, hn⟩
    · exact absurd (List.cons.inj heq).1 hc
  · rintro ⟨hdigits, hn⟩
    exact ⟨c :: cs, .inl rfl, List.cons_ne_nil c cs, hdigits, hn⟩

lemma readUnsigned_eq_ok {max n : Nat} {cs : List Char} :
    readUnsigned max cs = .ok n ↔ Numeral cs n ∧ n ≤ max := by
  have hread : ∀ ds : List Char, readDigits max 0 ds = .ok n ↔
      ((∀ c ∈ ds, c.isDigit = true) ∧ Nat.ofDigitChars 10 ds 0 = n) ∧ n ≤ max := by
    intro ds
    simp only [readDigits_eq_ok (Nat.zero_le max), isDigit_iff, and_assoc]
  unfold readUnsigned
  split
  · simp [Numeral]
  · simp [numeral_plus]
  · rename_i ds hds
    rw [hread, numeral_plus]
    simp [show ds ≠ [] from hds]
  · rename_i hnil _ hplus
    cases cs with
    | nil => exact absurd rfl hnil
    | cons c cs => rw [hread, numeral_of_ne_plus fun hc => hplus cs (by rw [hc])]

lemma readUInt32?_eq_some {s : String} {k : UInt32} :
    readUInt32? s = some k ↔ Numeral s.toList k.toNat := by
  unfold readUInt32?
  constructor
  · intro h
    split at h
    · rename_i n hn
      obtain ⟨hnumeral, hle⟩ := readUnsigned_eq_ok.mp hn
      obtain rfl := Option.some.inj h
      rwa [Nat.toUInt32, UInt32.toNat_ofNat_of_lt' (Nat.lt_succ_of_le hle)]
    · cases h
  · intro h
    have hread : readUnsigned 4294967295 s.toList = .ok k.toNat :=
      readUnsigned_eq_ok.mpr ⟨h, Nat.le_of_lt_succ k.toNat_lt⟩
    simp [hread]

lemma numeral_toDigits (n : Nat) : Numeral (Nat.toDigits 10 n) n := by
  refine ⟨Nat.toDigits 10 n, .inl rfl, Nat.toDigits_ne_nil, fun c hc => ?_, Nat.ofDigitChars_ten_toDigits⟩
  exact Nat.isDigit_of_mem_toDigits (by decide) (by decide) hc

end DiscordBot.Decimal
