import DiscordBot.Time.Calendar
import Mathlib.Tactic.IntervalCases

/-! Every count of days is a valid date, which counts the same days. -/

namespace DiscordBot.Time

/-- The days of an era as centuries, cycles of four years, years and days. Only the last year of a cycle has a
366th day, and the last cycle of a century only in the last century. -/
structure EraDay (d c q k r : Int) : Prop where
  sum : d = 36524 * c + 1461 * q + 365 * k + r
  centuries : 0 ≤ c ∧ c ≤ 3
  cycles : 0 ≤ q ∧ q ≤ 24
  years : 0 ≤ k ∧ k ≤ 3
  days : 0 ≤ r ∧ r ≤ 365
  leap : r = 365 → k = 3 ∧ (q = 24 → c = 3)

lemma exists_eraDay {d : Int} (h : 0 ≤ d ∧ d < 146097) : ∃ c q k r, EraDay d c q k r := by
  obtain ⟨c, hc⟩ : ∃ c, c = min 3 (d / 36524) := ⟨_, rfl⟩
  obtain ⟨q, hq⟩ : ∃ q, q = (d - 36524 * c) / 1461 := ⟨_, rfl⟩
  obtain ⟨k, hk⟩ : ∃ k, k = min 3 ((d - 36524 * c - 1461 * q) / 365) := ⟨_, rfl⟩
  refine ⟨c, q, k, d - 36524 * c - 1461 * q - 365 * k, ?_⟩
  constructor <;> omega

lemma EraDay.yearOfEra {d c q k r : Int} (h : EraDay d c q k r) :
    (d - d / 1460 + d / 36524 - d / 146096) / 365 = 100 * c + 4 * q + k := by
  obtain ⟨sum, centuries, cycles, years, days, leap⟩ := h
  have hrest : 36524 * c ≤ d ∧ d < 36524 * (c + 1) ∨ c = 3 ∧ d = 146096 := by omega
  have hcentury : d / 36524 - d / 146096 = c := by
    rcases hrest with hd | ⟨rfl, rfl⟩
    · have : d / 36524 = c := by omega
      omega
    · rfl
  have hcycle : d / 1460 = 25 * c + q ∧ 24 * c + q + 365 * k + r < 1460 ∨
      d / 1460 = 25 * c + q + 1 ∧ 1460 ≤ 24 * c + q + 365 * k + r := by omega
  have hyear : d - d / 1460 + d / 36524 - d / 146096 = d - d / 1460 + c := by omega
  rw [hyear]
  omega

def Date.ofMarch (year dayOfYear : Int) : Date :=
  let month := (5 * dayOfYear + 2) / 153
  let m := (if month < 10 then month + 3 else month - 9).toNat
  ⟨year + (if m ≤ 2 then 1 else 0), m, (dayOfYear - (153 * month + 2) / 5 + 1).toNat⟩

lemma Date.isValid_ofMarch {y r : Int} (h : 0 ≤ r ∧ r ≤ 365)
    (hleap : r = 365 → isLeapYear (y + 1) = true) : (ofMarch y r).isValid = true := by
  have hmonth : 0 ≤ (5 * r + 2) / 153 ∧ (5 * r + 2) / 153 ≤ 11 := by omega
  obtain ⟨m, hm⟩ : ∃ m, m = (5 * r + 2) / 153 := ⟨_, rfl⟩
  obtain ⟨hm0, hm11⟩ := hm ▸ hmonth
  rw [ofMarch, ← hm]
  have hday : r ≤ 364 ∨ isLeapYear (y + 1) = true := by
    by_cases hr : r = 365
    · exact .inr (hleap hr)
    · exact .inl (by omega)
  interval_cases m <;> simp [isValid, daysInMonth] <;> try omega
  rcases hday with hday | hday
  · split <;> omega
  · rw [if_pos hday]
    omega

lemma Date.toDays_ofMarch {y r : Int} (h : 0 ≤ r ∧ r ≤ 365) :
    (ofMarch y r).toDays = y * 365 + y / 4 - y / 100 + y / 400 + r - 719468 := by
  have hmonth : 0 ≤ (5 * r + 2) / 153 ∧ (5 * r + 2) / 153 ≤ 11 := by omega
  obtain ⟨m, hm⟩ : ∃ m, m = (5 * r + 2) / 153 := ⟨_, rfl⟩
  obtain ⟨hm0, hm11⟩ := hm ▸ hmonth
  rw [ofMarch, ← hm]
  interval_cases m <;> simp [toDays, Int.fdiv_eq_ediv_of_nonneg] <;> omega

lemma Date.ofDays_eq (n : Int) : ∃ e c q k r, EraDay (n + 719468 - e * 146097) c q k r ∧
    ofDays n = ofMarch (400 * e + 100 * c + 4 * q + k) r := by
  obtain ⟨e, he⟩ : ∃ e, e = (n + 719468) / 146097 := ⟨_, rfl⟩
  obtain ⟨c, q, k, r, h⟩ := exists_eraDay (d := n + 719468 - e * 146097) (by omega)
  refine ⟨e, c, q, k, r, h, ?_⟩
  have hfdiv : (n + 719468).fdiv 146097 = e := by
    rw [Int.fdiv_eq_ediv_of_nonneg _ (by decide), he]
  have hday : n + 719468 - e * 146097 - (365 * (100 * c + 4 * q + k) + (100 * c + 4 * q + k) / 4 -
      (100 * c + 4 * q + k) / 100) = r := by
    obtain ⟨sum, centuries, cycles, years, -, -⟩ := h
    omega
  simp only [ofDays, hfdiv, h.yearOfEra, hday, ofMarch, Date.mk.injEq, and_true]
  omega

lemma Date.isValid_ofDays (n : Int) : (ofDays n).isValid = true := by
  obtain ⟨e, c, q, k, r, h, heq⟩ := ofDays_eq n
  rw [heq]
  refine isValid_ofMarch h.days fun hr => ?_
  obtain ⟨rfl, hq⟩ := h.leap hr
  obtain ⟨-, centuries, cycles, -, -, -⟩ := h
  simp only [isLeapYear, Bool.and_eq_true, beq_iff_eq, Bool.or_eq_true, bne_iff_ne]
  omega

lemma Date.toDays_ofDays (n : Int) : (ofDays n).toDays = n := by
  obtain ⟨e, c, q, k, r, h, heq⟩ := ofDays_eq n
  rw [heq, toDays_ofMarch h.days]
  obtain ⟨sum, centuries, cycles, years, -, -⟩ := h
  omega

end DiscordBot.Time
