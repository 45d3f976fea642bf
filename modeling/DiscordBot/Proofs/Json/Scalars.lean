import DiscordBot.Json.Printer
import DiscordBot.Json.Tree
import DiscordBot.Proofs.Decimal.Numeral
import Mathlib.Data.List.Forall2
import Mathlib.Data.List.TakeWhile

/-! Texts of one string or of one whole number. A string is read as it was written, and a whole number too
if it fits 64 bits; else it is read as a float, if as anything. -/

namespace DiscordBot.Json

section Tokens

variable {c : Char} {cs : List Char} {t : Token}

lemma scanTokens_single (hc : isSpace c = false) (h : scanToken (c :: cs) = some (t, [])) (fuel : Nat) :
    scanTokens (fuel + 1) (c :: cs) = some [t] := by
  have hnone : scanTokens fuel [] = some [] := by cases fuel <;> rfl
  have hdrop : (c :: cs).dropWhile isSpace = c :: cs := by simp [hc]
  rw [scanTokens, hdrop]
  simp [h, hnone]

lemma tokens?_single {s : String} (hs : s.toList = c :: cs) (hc : isSpace c = false)
    (h : scanToken (c :: cs) = some (t, [])) : tokens? s = some [t] := by
  rw [tokens?, hs]
  exact scanTokens_single hc h cs.length

end Tokens

section Strings

inductive StandsFor : StringUnit → Char → Prop
  | char (c : Char) : StandsFor (.char c) c
  | code {c : Char} (h : c.toNat < 0x20) : StandsFor (.code c.toNat) c

variable {us : List StringUnit} {cs : List Char}

lemma hexCode?_control : ∀ n < 0x20, hexCode? '0' '0' (hexDigit (n / 16)) (hexDigit (n % 16)) = some n := by
  decide

lemma scanString_escapeChar (c : Char) {r : List Char} (h : scanString cs = some (us, r)) :
    ∃ u, StandsFor u c ∧ scanString (escapeChar c ++ cs) = some (u :: us, r) := by
  unfold escapeChar
  split
  case h_8 =>
    rename_i hquote hbackslash _ _ _ _ _
    split
    · rename_i hcontrol
      exact ⟨_, .code hcontrol, by simp [scanString, hexCode?_control c.toNat hcontrol, h]⟩
    · rename_i hplain
      refine ⟨_, .char c, ?_⟩
      rw [List.singleton_append, scanString]
      · simp [hplain, h]
      · exact hquote
      · exact fun _ _ _ _ _ hc _ => hbackslash hc
      · exact fun _ _ hc _ => hbackslash hc
  all_goals exact ⟨_, .char _, by simp [scanString, simpleEscape?, h]⟩

lemma scanString_escaped (cs : List Char) :
    ∃ us, List.Forall₂ StandsFor us cs ∧ scanString (cs.flatMap escapeChar ++ ['"']) = some (us, []) := by
  induction cs with
  | nil => exact ⟨[], .nil, rfl⟩
  | cons c cs ih =>
    obtain ⟨us, hus, hscan⟩ := ih
    obtain ⟨u, hu, hscan⟩ := scanString_escapeChar c hscan
    refine ⟨u :: us, .cons hu hus, ?_⟩
    rw [List.flatMap_cons, List.append_assoc, hscan]

lemma joinUnits_code {n : Nat} (h : n < 0xD800) (us : List StringUnit) :
    joinUnits (.code n :: us) = (joinUnits us).map (Char.ofNat n :: ·) := by
  have hhigh : ¬(0xD800 ≤ n ∧ n ≤ 0xDBFF) := by omega
  have hlow : ¬(0xDC00 ≤ n ∧ n ≤ 0xDFFF) := by omega
  have hsurrogate : ¬(0xD800 ≤ n ∧ n ≤ 0xDFFF) := by omega
  cases us with
  | nil => simp [joinUnits, hsurrogate]
  | cons u us => cases u <;> simp [joinUnits, hhigh, hlow, hsurrogate]

lemma joinUnits_of_standsFor (h : List.Forall₂ StandsFor us cs) : joinUnits us = some cs := by
  induction h with
  | nil => rfl
  | cons hu _ ih =>
    cases hu with
    | char c => rw [joinUnits, ih, Option.map_some]
    | code hcontrol => rw [joinUnits_code (Nat.lt_trans hcontrol (by decide)), ih, Option.map_some,
        Char.ofNat_toNat]

theorem parse?_quote (s : String) : parse? (quote s) = some (.str s) := by
  obtain ⟨us, hus, hscan⟩ := scanString_escaped s.toList
  have htext : (quote s).toList = '"' :: (s.toList.flatMap escapeChar ++ ['"']) := by simp [quote]
  have htoken : scanToken ('"' :: (s.toList.flatMap escapeChar ++ ['"'])) = some (.string us, []) := by
    rw [scanToken, hscan, Option.map_some]
  have htree : Tree.parse? (quote s) = some (.string us) := by
    rw [Tree.parse?, tokens?_single htext (by decide) htoken]
    rfl
  rw [parse?, htree, Option.bind_some, Tree.value?, text?, joinUnits_of_standsFor hus]
  simp

end Strings

section WholeNumbers

def NumberText.ofInt (n : Int) : NumberText := ⟨decide (n < 0), Nat.toDigits 10 n.natAbs, [], none⟩

lemma head?_toDigits {n : Nat} (h : 0 < n) : (Nat.toDigits 10 n).head? ≠ some '0' := by
  induction n using Nat.strongRecOn with
  | ind n ih =>
    rw [Nat.toDigits_eq_if (by decide)]
    split
    · simpa [Nat.digitChar_eq_zero] using Nat.ne_of_gt h
    · rename_i hlarge
      rw [List.head?_append_of_ne_nil _ Nat.toDigits_ne_nil]
      exact ih (n / 10) (by omega) (by omega)

lemma scanNumber_digits {ds : List Char} (negative : Bool) (hne : ds ≠ [])
    (hdigits : ∀ c ∈ ds, Decimal.isDigit c = true) (hzero : ds.head? = some '0' → ds.length = 1) :
    scanNumber negative ds = some (⟨negative, ds, [], none⟩, []) := by
  have htake : ds.takeWhile Decimal.isDigit = ds := List.takeWhile_eq_self_iff.mpr hdigits
  have hdrop : ds.dropWhile Decimal.isDigit = [] := List.dropWhile_eq_nil_iff.mpr hdigits
  have hlead : (ds.isEmpty || (ds.head? == some '0' && 1 < ds.length)) = false := by
    simp [hne]
    intro h
    simp [hzero h]
  rw [scanNumber]
  simp only [htake, hdrop, hlead]
  rfl

lemma scanToken_digit {c : Char} {cs : List Char} (h : Decimal.isDigit c = true) :
    scanToken (c :: cs) = (scanNumber false (c :: cs)).map fun (t, r) => (.number t, r) := by
  rw [scanToken]
  · exact List.cons_ne_nil c cs
  all_goals
    rintro _ ⟨⟩
    exact absurd h (by decide)

lemma isSpace_of_isDigit {c : Char} (h : Decimal.isDigit c = true) : isSpace c = false := by
  rw [← Bool.not_eq_true]
  intro hspace
  simp only [isSpace, Bool.or_eq_true, beq_iff_eq] at hspace
  rcases hspace with ((rfl | rfl) | rfl) | rfl <;> exact absurd h (by decide)

lemma scanNumber_toDigits (negative : Bool) (n : Nat) :
    scanNumber negative (Nat.toDigits 10 n) = some (⟨negative, Nat.toDigits 10 n, [], none⟩, []) := by
  refine scanNumber_digits negative Nat.toDigits_ne_nil (fun _ => Decimal.isDigit_of_mem_toDigits) fun hzero => ?_
  rcases Nat.eq_zero_or_pos n with rfl | hpos
  · rfl
  · exact absurd hzero (head?_toDigits hpos)

lemma tokens?_toString (n : Int) : tokens? (toString n) = some [.number (.ofInt n)] := by
  cases n with
  | ofNat m =>
    have htext : (toString (Int.ofNat m)).toList = Nat.toDigits 10 m := by
      simp [Int.toString_eq_repr, Int.repr]
    obtain ⟨c, cs, hdigits⟩ := List.exists_cons_of_ne_nil (Nat.toDigits_ne_nil (n := m) (b := 10))
    have hc : Decimal.isDigit c = true :=
      Decimal.isDigit_of_mem_toDigits (hdigits ▸ List.mem_cons_self)
    refine tokens?_single (htext.trans hdigits) (isSpace_of_isDigit hc) ?_
    rw [scanToken_digit hc, ← hdigits, scanNumber_toDigits]
    simp [NumberText.ofInt]
  | negSucc m =>
    have htext : (toString (Int.negSucc m)).toList = '-' :: Nat.toDigits 10 (m + 1) := by
      simp [Int.toString_eq_repr, Int.repr]
    refine tokens?_single htext (by decide) ?_
    rw [scanToken, scanNumber_toDigits]
    simp [NumberText.ofInt, Int.negSucc_lt_zero]

lemma parse?_toString (n : Int) : parse? (toString n) = (NumberText.ofInt n).value? := by
  have htree : Tree.parse? (toString n) = some (.number (.ofInt n)) := by
    rw [Tree.parse?, tokens?_toString]
    rfl
  rw [parse?, htree, Option.bind_some, Tree.value?]

lemma takeDigits_of_le {n : Nat} {cs : List Char} (h : Nat.ofDigitChars 10 cs n ≤ greatestSignificand) :
    takeDigits n cs = (Nat.ofDigitChars 10 cs n, []) := by
  induction cs generalizing n with
  | nil => rfl
  | cons c cs ih =>
    have hnext : n * 10 + Decimal.digitValue c = 10 * n + (c.toNat - '0'.toNat) := by
      rw [Decimal.digitValue, Nat.mul_comm]
    rw [Nat.ofDigitChars_cons, ← hnext] at h ⊢
    rw [takeDigits, if_pos ((Decimal.le_ofDigitChars _ cs).trans h), ih h]

lemma takeDigits_of_lt {n : Nat} {cs : List Char} (hn : n ≤ greatestSignificand)
    (h : greatestSignificand < Nat.ofDigitChars 10 cs n) : (takeDigits n cs).2 ≠ [] := by
  induction cs generalizing n with
  | nil => exact absurd h (Nat.not_lt.mpr hn)
  | cons c cs ih =>
    have hnext : n * 10 + Decimal.digitValue c = 10 * n + (c.toNat - '0'.toNat) := by
      rw [Decimal.digitValue, Nat.mul_comm]
    rw [Nat.ofDigitChars_cons, ← hnext] at h
    rw [takeDigits]
    split
    · rename_i hfits
      exact ih hfits h
    · exact List.cons_ne_nil c cs

lemma takeDigits_toDigits {n : Nat} (h : n ≤ greatestSignificand) :
    takeDigits 0 (Nat.toDigits 10 n) = (n, []) := by
  have hvalue : Nat.ofDigitChars 10 (Nat.toDigits 10 n) 0 = n := Nat.ofDigitChars_ten_toDigits
  rw [takeDigits_of_le (hvalue.trans_le h), hvalue]

theorem parse?_wholeNumber {n : Int} (h : -0x8000000000000000 ≤ n ∧ n ≤ 0xFFFFFFFFFFFFFFFF) :
    parse? (toString n) = some (.int n) := by
  have hfits : n.natAbs ≤ greatestSignificand := by
    rw [greatestSignificand]
    omega
  rw [parse?_toString, NumberText.value?, NumberText.ofInt]
  simp only [takeDigits_toDigits hfits]
  by_cases hneg : n < 0
  · have hsmall : (n.natAbs == 0 || decide (0x8000000000000000 < n.natAbs)) = false := by
      simp only [Bool.or_eq_false_iff, beq_eq_false_iff_ne, decide_eq_false_iff_not]
      omega
    have habs : -(n.natAbs : Int) = n := by omega
    rw [decide_eq_true hneg, hsmall]
    exact congrArg (some <| Json.int ·) habs
  · have habs : (n.natAbs : Int) = n := by omega
    rw [decide_eq_false hneg]
    exact congrArg (some <| Json.int ·) habs

theorem parse?_wide {n : Int} {j : Json} (h : n < -0x8000000000000000 ∨ 0xFFFFFFFFFFFFFFFF < n)
    (hread : parse? (toString n) = some j) : ∃ x, j = .float x := by
  have hfloat : ∀ {x : Option Float}, (x.bind fun x =>
      if h : x.isFinite = true then some (.float ⟨x, h⟩) else none) = some j → ∃ x, j = .float x := by
    intro x hx
    obtain ⟨y, -, hy⟩ := Option.bind_eq_some_iff.mp hx
    split at hy
    · exact ⟨_, (Option.some.inj hy).symm⟩
    · cases hy
  have hvalue : Nat.ofDigitChars 10 (Nat.toDigits 10 n.natAbs) 0 = n.natAbs := Nat.ofDigitChars_ten_toDigits
  rw [parse?_toString, NumberText.value?, NumberText.ofInt] at hread
  dsimp only at hread
  by_cases hlarge : greatestSignificand < n.natAbs
  · have hdropped : (takeDigits 0 (Nat.toDigits 10 n.natAbs)).2.isEmpty = false := by
      simpa using takeDigits_of_lt (Nat.zero_le _) (hlarge.trans_eq hvalue.symm)
    rw [hdropped] at hread
    exact hfloat hread
  · rw [takeDigits_toDigits (Nat.le_of_not_lt hlarge)] at hread
    rw [greatestSignificand] at hlarge
    have hneg : decide (n < 0) = true := decide_eq_true (by omega)
    have hbelow : (n.natAbs == 0 || decide (0x8000000000000000 < n.natAbs)) = true := by
      simp only [Bool.or_eq_true, beq_iff_eq, decide_eq_true_iff]
      omega
    rw [hneg, hbelow] at hread
    exact hfloat hread

end WholeNumbers

end DiscordBot.Json
