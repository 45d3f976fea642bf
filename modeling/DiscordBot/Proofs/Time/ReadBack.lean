import DiscordBot.Proofs.Snowflake.Text
import DiscordBot.Proofs.Time.Calendar
import DiscordBot.Time.Timestamp
import Mathlib.Data.List.Basic
import Mathlib.Data.List.Induction

/-! An instant that was read is read again from its text. -/

namespace DiscordBot.Time

open Decimal (isDigit digitValue)

lemma toList_pad (width n : Nat) : (pad width n).toList =
    List.replicate (width - (Nat.toDigits 10 n).length) '0' ++ Nat.toDigits 10 n := by
  simp [pad, ← String.length_toList]

lemma isDigit_of_mem_pad {width n : Nat} {c : Char} (hc : c ∈ (pad width n).toList) :
    isDigit c = true := by
  rw [toList_pad, List.mem_append] at hc
  rcases hc with hc | hc
  · rw [List.eq_of_mem_replicate hc]
    rfl
  · exact Decimal.isDigit_of_mem_toDigits hc

lemma length_pad {width n : Nat} (hw : 0 < width) (hn : n < 10 ^ width) :
    (pad width n).toList.length = width := by
  have := (Nat.length_toDigits_le_iff (by decide) hw).mpr hn
  rw [toList_pad, List.length_append, List.length_replicate]
  omega

lemma pad_ne_nil (width n : Nat) : (pad width n).toList ≠ [] := by
  rw [toList_pad]
  exact List.append_ne_nil_of_right_ne_nil _ Nat.toDigits_ne_nil

lemma pad_eq_cons (width n : Nat) : ∃ c cs, (pad width n).toList = c :: cs ∧ isDigit c = true := by
  obtain ⟨c, cs, h⟩ := List.exists_cons_of_ne_nil (pad_ne_nil width n)
  exact ⟨c, cs, h, isDigit_of_mem_pad (by rw [h]; exact List.mem_cons_self)⟩

lemma foldl_pad (width n : Nat) :
    (pad width n).toList.foldl (fun m c => m * 10 + digitValue c) 0 = n := by
  have hstep : (fun m c => m * 10 + digitValue c) = fun m c => 10 * m + (c.toNat - '0'.toNat) := by
    funext m c
    rw [digitValue, Nat.mul_comm]
  rw [hstep]
  change Nat.ofDigitChars 10 _ 0 = n
  rw [toList_pad, Nat.ofDigitChars_append, Nat.ofDigitChars_replicate_zero, Nat.mul_zero,
    Nat.ofDigitChars_ten_toDigits]

lemma skipBlank_cons {c : Char} (hc : Text.isBlank c = false) (r : List Char) :
    skipBlank (c :: r) = c :: r := by
  simp [skipBlank, hc]

lemma skipBlank_pad (width n : Nat) (r : List Char) :
    skipBlank ((pad width n).toList ++ r) = (pad width n).toList ++ r := by
  obtain ⟨c, cs, h, hc⟩ := pad_eq_cons width n
  rw [h, List.cons_append, skipBlank_cons (Text.isBlank_of_isDigit hc)]

def Stops (r : List Char) : Prop := ∀ c ∈ r.head?, isDigit c = false

lemma Stops.takeWhile {r : List Char} (h : Stops r) : r.takeWhile isDigit = [] := by
  cases r with
  | nil => rfl
  | cons c r => simp [h c rfl]

lemma Stops.take {r : List Char} (h : Stops r) (n : Nat) : Stops (r.take n) := by
  cases n with
  | zero => nofun
  | succ n =>
    cases r with
    | nil => nofun
    | cons c r => exact h

lemma takeWhile_pad (width n : Nat) {r : List Char} (hr : Stops r) :
    ((pad width n).toList ++ r).takeWhile isDigit = (pad width n).toList := by
  rw [List.takeWhile_append_of_pos fun c => isDigit_of_mem_pad, hr.takeWhile, List.append_nil]

lemma number_pad {k width n : Nat} {r : List Char} (hk : (pad width n).toList.length ≤ k)
    (hr : Stops (r.take (k - (pad width n).toList.length))) :
    number k ((pad width n).toList ++ r) = some (n, r) := by
  have htake : (((pad width n).toList ++ r).take k).takeWhile isDigit = (pad width n).toList := by
    rw [List.take_append, List.take_of_length_le hk, takeWhile_pad width n hr]
  have hne : (pad width n).toList.isEmpty = false := by
    simpa using pad_ne_nil width n
  simp only [number]
  rw [skipBlank_pad, htake, hne, foldl_pad, List.drop_left]
  rfl

lemma number_of_lt {width n : Nat} (hw : 0 < width) (hn : n < 10 ^ width) (r : List Char) :
    number width ((pad width n).toList ++ r) = some (n, r) := by
  have hlength := length_pad hw hn
  refine number_pad (Nat.le_of_eq hlength) ?_
  rw [hlength, Nat.sub_self]
  nofun

lemma mark_cons {c : Char} (hc : Text.isBlank c = false) (r : List Char) :
    mark c (c :: r) = some ((), r) := by
  simp [mark, skipBlank_cons hc]

lemma fraction_pad (width n : Nat) (hw : 0 < width ∧ width ≤ 9) (hn : n < 10 ^ width)
    {r : List Char} (hr : Stops r) :
    fraction ('.' :: ((pad width n).toList ++ r)) = some (n * 10 ^ (9 - width), r) := by
  have hlength := length_pad hw.1 hn
  have hne : (pad width n).toList.isEmpty = false := by
    simpa using pad_ne_nil width n
  have htake : (pad width n).toList.take 9 = (pad width n).toList :=
    List.take_of_length_le (by omega)
  simp only [fraction]
  rw [takeWhile_pad width n hr, hne, htake, foldl_pad, List.drop_left, hlength]
  rfl

lemma fraction_text {nanos : Nat} (h : nanos < 1000000000) {r : List Char} (hr : Stops r)
    (hdot : r.head? ≠ some '.') : fraction ((fractionText nanos).toList ++ r) = some (nanos, r) := by
  have hpoint : ∀ width n : Nat, 0 < width ∧ width ≤ 9 → n < 10 ^ width →
      n * 10 ^ (9 - width) = nanos →
      fraction (("." ++ pad width n).toList ++ r) = some (nanos, r) := by
    intro width n hw hn heq
    rw [String.toList_append, List.append_assoc, show ".".toList = ['.'] from rfl,
      List.singleton_append, fraction_pad width n hw hn hr, heq]
  unfold fractionText
  split
  · rename_i h0
    rw [beq_iff_eq.mp h0, String.toList_empty, List.nil_append]
    unfold fraction
    split
    · exact absurd rfl hdot
    · rfl
  · split
    · rename_i h6
      have := beq_iff_eq.mp h6
      exact hpoint 3 _ (by decide) (by omega) (by omega)
    · split
      · rename_i h3
        have := beq_iff_eq.mp h3
        exact hpoint 6 _ (by decide) (by omega) (by omega)
      · exact hpoint 9 _ (by decide) (by omega) (by omega)

lemma year_signed {c : Char} (hc : c = '-' ∨ c = '+') (n : Nat) {r : List Char} (hr : Stops r) :
    year (c :: ((pad 4 n).toList ++ r)) = some (if c = '-' then -(n : Int) else n, r) := by
  have hhead : ((((pad 4 n).toList ++ r).head?.map isDigit).getD false) = true := by
    obtain ⟨d, ds, h, hd⟩ := pad_eq_cons 4 n
    simp [h, hd]
  have hnumber : number ((pad 4 n).toList ++ r).length ((pad 4 n).toList ++ r) = some (n, r) :=
    number_pad (by simp) (hr.take _)
  rcases hc with rfl | rfl
  all_goals
    unfold year
    rw [skipBlank_cons (by decide)]
    exact (if_pos hhead).trans (by rw [hnumber]; rfl)

lemma year_text (y : Int) {r : List Char} (hr : Stops r) :
    year ((yearText y).toList ++ r) = some (y, r) := by
  unfold yearText
  split
  · rename_i hy
    have hnumber := number_of_lt (n := y.toNat) (by decide : 0 < 4) (by omega) r
    have hunsigned : ∀ c r', isDigit c = false → (pad 4 y.toNat).toList ++ r ≠ c :: r' := by
      intro c r' hc heq
      obtain ⟨d, ds, h, hd⟩ := pad_eq_cons 4 y.toNat
      rw [h] at heq
      rw [(List.cons.inj heq).1, hc] at hd
      cases hd
    unfold year
    rw [skipBlank_pad]
    split
    · rename_i heq
      exact absurd heq (hunsigned _ _ (by decide))
    · rename_i heq
      exact absurd heq (hunsigned _ _ (by decide))
    · simp [hnumber, hy.1]
  · split
    · rename_i hy
      rw [String.toList_append, List.append_assoc, show "-".toList = ['-'] from rfl,
        List.singleton_append, year_signed (.inl rfl) _ hr, if_pos rfl]
      congr 2
      omega
    · rename_i hy _
      rw [String.toList_append, List.append_assoc, show "+".toList = ['+'] from rfl,
        List.singleton_append, year_signed (.inr rfl) _ hr, if_neg (by decide)]
      congr 2
      omega

structure Timestamp.Regular (t : Timestamp) : Prop where
  year : yearInRange (Date.ofDays (t.seconds.fdiv 86400)).year = true
  nanos : t.nanos < 1000000000 ∨ t.nanos < 2000000000 ∧ t.seconds % 60 = 59

lemma digitValue_lt {c : Char} (h : isDigit c = true) : digitValue c < 10 := by
  have hc : 48 ≤ c.toNat ∧ c.toNat ≤ 57 := by
    simpa [isDigit, Char.le_def, UInt32.le_iff_toNat_le] using h
  have h0 : '0'.toNat = 48 := rfl
  rw [digitValue, h0]
  omega

lemma foldl_digits_lt {ds : List Char} (h : ∀ c ∈ ds, isDigit c = true) :
    ds.foldl (fun n c => n * 10 + digitValue c) 0 < 10 ^ ds.length := by
  induction ds using List.reverseRecOn with
  | nil => decide
  | append_singleton ds c ih =>
    have hds := ih fun d hd => h d (List.mem_append_left _ hd)
    have hc := digitValue_lt (h c (List.mem_append_right _ (List.mem_singleton_self c)))
    rw [List.foldl_concat, List.length_append, List.length_singleton, Nat.pow_succ]
    omega

lemma fraction_lt {cs r : List Char} {n : Nat} (h : fraction cs = some (n, r)) : n < 1000000000 := by
  unfold fraction at h
  split at h
  · rename_i cs
    dsimp only at h
    split at h
    · cases h
    · cases h
      have hdigits : ∀ c ∈ (cs.takeWhile isDigit).take 9, isDigit c = true := fun c hc =>
        List.all_eq_true.mp List.all_takeWhile c (List.mem_of_mem_take hc)
      have hlength : ((cs.takeWhile isDigit).take 9).length ≤ 9 := List.length_take_le _ _
      calc _ < 10 ^ ((cs.takeWhile isDigit).take 9).length *
            10 ^ (9 - ((cs.takeWhile isDigit).take 9).length) :=
          Nat.mul_lt_mul_of_pos_right (foldl_digits_lt hdigits) (Nat.pow_pos (by decide))
        _ = 1000000000 := by rw [← Nat.pow_add, Nat.add_sub_cancel' hlength]
  · cases h
    decide

lemma offset_minutes {cs r : List Char} {off : Int} (h : offset cs = some (off, r)) :
    off % 60 = 0 := by
  unfold offset at h
  split at h
  · cases h
  · split_ifs at h
    · cases h
      rfl
    · cases h
      rfl
    all_goals
      obtain ⟨⟨hours, r1⟩, -, h⟩ := Option.bind_eq_some_iff.mp h
      obtain ⟨⟨minutes, r2⟩, -, h⟩ := Option.bind_eq_some_iff.mp h
      dsimp only at h
      split_ifs at h
      cases h
      omega

theorem Timestamp.regular_of_parse {s : String} {t : Timestamp} (h : parse? s = some t) :
    t.Regular := by
  unfold parse? at h
  obtain ⟨⟨y, r1⟩, -, h⟩ := Option.bind_eq_some_iff.mp h
  obtain ⟨⟨⟨⟩, r2⟩, -, h⟩ := Option.bind_eq_some_iff.mp h
  obtain ⟨⟨mo, r3⟩, -, h⟩ := Option.bind_eq_some_iff.mp h
  obtain ⟨⟨⟨⟩, r4⟩, -, h⟩ := Option.bind_eq_some_iff.mp h
  obtain ⟨⟨d, r5⟩, -, h⟩ := Option.bind_eq_some_iff.mp h
  cases r5 with
  | nil => cases h
  | cons c r =>
    dsimp only at h
    split at h
    swap
    · cases h
    obtain ⟨r6, -, h⟩ := Option.bind_eq_some_iff.mp h
    obtain ⟨⟨hour, r7⟩, -, h⟩ := Option.bind_eq_some_iff.mp h
    obtain ⟨⟨⟨⟩, r8⟩, -, h⟩ := Option.bind_eq_some_iff.mp h
    obtain ⟨⟨minute, r9⟩, -, h⟩ := Option.bind_eq_some_iff.mp h
    obtain ⟨⟨⟨⟩, r10⟩, -, h⟩ := Option.bind_eq_some_iff.mp h
    obtain ⟨⟨sec, r11⟩, -, h⟩ := Option.bind_eq_some_iff.mp h
    obtain ⟨⟨nanos, r12⟩, hnanos, h⟩ := Option.bind_eq_some_iff.mp h
    obtain ⟨⟨off, r13⟩, hoff, h⟩ := Option.bind_eq_some_iff.mp h
    have hlt := fraction_lt hnanos
    have hminutes := offset_minutes hoff
    dsimp only at h
    split_ifs at h with hcheck hleap hyear hyear
    · cases h
      refine ⟨hyear, .inr ?_⟩
      dsimp only
      omega
    · cases h
      refine ⟨hyear, .inl ?_⟩
      simpa only [if_neg hleap] using hlt

lemma daysInMonth_le (y : Int) (m : Nat) : daysInMonth y m ≤ 31 := by
  unfold daysInMonth
  split_ifs <;> decide

def stamp (d : Date) (hour minute second nanos : Nat) : List Char :=
  (yearText d.year).toList ++ '-' :: ((pad 2 d.month).toList ++ '-' :: ((pad 2 d.day).toList ++ 'T' ::
    ((pad 2 hour).toList ++ ':' :: ((pad 2 minute).toList ++ ':' :: ((pad 2 second).toList ++
      ((fractionText nanos).toList ++ ['Z']))))))

lemma parse_stamp {s : String} {n : Int} {hour minute second nanos : Nat}
    (hs : s.toList = stamp (Date.ofDays n) hour minute second nanos)
    (hyear : yearInRange (Date.ofDays n).year = true) (hhour : hour < 24) (hminute : minute < 60)
    (hsecond : second < 61) (hnanos : nanos < 1000000000) :
    Timestamp.parse? s = some
      ⟨n * 86400 + hour * 3600 + minute * 60 + (if (second == 60) = true then 59 else second : Nat),
        if (second == 60) = true then nanos + 1000000000 else nanos⟩ := by
  have hvalid := Date.isValid_ofDays n
  have hmonth : (Date.ofDays n).month < 10 ^ 2 ∧ (Date.ofDays n).day < 10 ^ 2 := by
    have hle := daysInMonth_le (Date.ofDays n).year (Date.ofDays n).month
    simp only [Date.isValid, Bool.and_eq_true, decide_eq_true_eq] at hvalid
    omega
  have hstop : ∀ (c : Char) (r : List Char), isDigit c = false → Stops (c :: r) := by
    intro c r hc d hd
    obtain rfl := Option.some.inj hd
    exact hc
  refine Option.bind_eq_some_iff.mpr ⟨_, by rw [hs]; exact year_text _ (hstop _ _ (by decide)), ?_⟩
  refine Option.bind_eq_some_iff.mpr ⟨_, mark_cons (by decide) _, ?_⟩
  refine Option.bind_eq_some_iff.mpr ⟨_, number_of_lt (by decide) hmonth.1 _, ?_⟩
  refine Option.bind_eq_some_iff.mpr ⟨_, mark_cons (by decide) _, ?_⟩
  refine Option.bind_eq_some_iff.mpr ⟨_, number_of_lt (by decide) hmonth.2 _, ?_⟩
  refine (if_pos rfl).trans ?_
  refine Option.bind_eq_some_iff.mpr ⟨_, rfl, ?_⟩
  refine Option.bind_eq_some_iff.mpr ⟨_, number_of_lt (by decide) (by omega) _, ?_⟩
  refine Option.bind_eq_some_iff.mpr ⟨_, mark_cons (by decide) _, ?_⟩
  refine Option.bind_eq_some_iff.mpr ⟨_, number_of_lt (by decide) (by omega) _, ?_⟩
  refine Option.bind_eq_some_iff.mpr ⟨_, mark_cons (by decide) _, ?_⟩
  refine Option.bind_eq_some_iff.mpr ⟨_, number_of_lt (by decide) (by omega) _, ?_⟩
  refine Option.bind_eq_some_iff.mpr ⟨_, fraction_text hnanos (hstop _ _ (by decide)) (by decide), ?_⟩
  refine Option.bind_eq_some_iff.mpr ⟨(0, []), rfl, ?_⟩
  obtain ⟨shown, hshown⟩ : ∃ shown, shown = if (second == 60) = true then 59 else second := ⟨_, rfl⟩
  have hle : shown < 60 := by
    rw [hshown]
    split
    · decide
    · rename_i h
      have : second ≠ 60 := fun he => h (beq_iff_eq.mpr he)
      omega
  have hdays : (n * 86400 + hour * 3600 + minute * 60 + shown : Int).fdiv 86400 = n := by
    rw [Int.fdiv_eq_ediv_of_nonneg _ (by decide)]
    omega
  refine (if_neg (by simp [skipBlank, hyear, hvalid]; omega)).trans ?_
  dsimp only
  rw [← hshown, Int.sub_zero, Date.toDays_ofDays, hdays, if_pos hyear]

lemma Timestamp.toList_text (t : Timestamp) : t.text.toList =
    stamp (Date.ofDays (t.seconds.fdiv 86400)) ((t.seconds.fmod 86400).toNat / 3600)
      ((t.seconds.fmod 86400).toNat / 60 % 60)
      (if 1000000000 ≤ t.nanos then (t.seconds.fmod 86400).toNat % 60 + 1
        else (t.seconds.fmod 86400).toNat % 60)
      (if 1000000000 ≤ t.nanos then t.nanos - 1000000000 else t.nanos) := by
  simp [text, stamp]

theorem Timestamp.Regular.parse_text {t : Timestamp} (ht : t.Regular) : parse? t.text = some t := by
  obtain ⟨seconds, nanos⟩ := t
  obtain ⟨hyear, hnanos⟩ := ht
  dsimp only at hyear hnanos
  have hdiv : seconds.fdiv 86400 = seconds / 86400 := Int.fdiv_eq_ediv_of_nonneg _ (by decide)
  have hmod : seconds.fmod 86400 = seconds % 86400 := Int.fmod_eq_emod_of_nonneg _ (by decide)
  have htext := toList_text ⟨seconds, nanos⟩
  dsimp only at htext
  rw [hdiv] at hyear
  rw [hdiv, hmod] at htext
  rcases Nat.lt_or_ge nanos 1000000000 with hlt | hge
  · rw [if_neg (by omega), if_neg (by omega)] at htext
    have hshort : ((seconds % 86400).toNat % 60 == 60) = false := by
      rw [beq_eq_false_iff_ne]
      omega
    rw [parse_stamp htext hyear (by omega) (by omega) (by omega) hlt, hshort]
    simp only [Bool.false_eq_true, if_false, Option.some.injEq, Timestamp.mk.injEq, and_true]
    omega
  · rw [if_pos hge, if_pos hge] at htext
    have hlong : ((seconds % 86400).toNat % 60 + 1 == 60) = true := by
      rw [beq_iff_eq]
      omega
    rw [parse_stamp htext hyear (by omega) (by omega) (by omega) (by omega), hlong]
    simp only [if_true, Option.some.injEq, Timestamp.mk.injEq]
    omega

theorem Timestamp.parse_text_of_parse {s : String} {t : Timestamp} (h : parse? s = some t) :
    parse? t.text = some t :=
  (regular_of_parse h).parse_text

end DiscordBot.Time
