import DiscordBot.Proofs.Decimal.Numeral
import DiscordBot.Proofs.Json.ReadBack
import DiscordBot.Snowflake
import Mathlib.Data.List.TakeWhile

/-! The texts that are read as snowflakes. The one that is written for a snowflake is read as that one. -/

namespace DiscordBot

namespace Text

lemma isBlank_of_isDigit {c : Char} (h : Decimal.isDigit c = true) : isBlank c = false := by
  have hc : 48 ≤ c.toNat ∧ c.toNat ≤ 57 := by
    simpa [Decimal.isDigit, Char.le_def, UInt32.le_iff_toNat_le] using h
  simp only [isBlank, isBlankCode, Bool.or_eq_false_iff, Bool.and_eq_false_iff, beq_eq_false_iff_ne,
    decide_eq_false_iff_not]
  omega

lemma exists_trimBlank (cs : List Char) : ∃ before after, cs = before ++ trimBlank cs ++ after ∧
    (∀ c ∈ before, isBlank c = true) ∧ ∀ c ∈ after, isBlank c = true := by
  obtain ⟨ds, hds⟩ : ∃ ds, ds = cs.dropWhile isBlank := ⟨_, rfl⟩
  have hfront : cs = cs.takeWhile isBlank ++ ds := by rw [hds, List.takeWhile_append_dropWhile]
  have hback : ds = trimBlank cs ++ (ds.reverse.takeWhile isBlank).reverse := by
    rw [trimBlank, trimBoth, ← hds, ← List.reverse_append, List.takeWhile_append_dropWhile,
      List.reverse_reverse]
  refine ⟨cs.takeWhile isBlank, (ds.reverse.takeWhile isBlank).reverse, ?_, ?_, ?_⟩
  · rw [List.append_assoc, ← hback, ← hfront]
  · exact fun c hc => List.mem_takeWhile_imp hc
  · exact fun c hc => List.mem_takeWhile_imp (List.mem_reverse.mp hc)

lemma dropWhile_append {p : Char → Bool} {before cs : List Char} (hbefore : ∀ c ∈ before, p c = true)
    (hcs : ∀ c ∈ cs.head?, p c = false) : (before ++ cs).dropWhile p = cs := by
  rw [List.dropWhile_append_of_pos hbefore]
  cases cs with
  | nil => rfl
  | cons c cs => simp [hcs c rfl]

lemma trimBlank_append {before core after : List Char} (hbefore : ∀ c ∈ before, isBlank c = true)
    (hcore : ∀ c ∈ core, isBlank c = false) (hne : core ≠ []) (hafter : ∀ c ∈ after, isBlank c = true) :
    trimBlank (before ++ core ++ after) = core := by
  have hfront : (before ++ core ++ after).dropWhile isBlank = core ++ after := by
    rw [List.append_assoc]
    refine dropWhile_append hbefore fun c hc => hcore c ?_
    rw [List.head?_append_of_ne_nil _ hne] at hc
    exact List.mem_of_mem_head? hc
  have hback : (core ++ after).reverse.dropWhile isBlank = core.reverse := by
    rw [List.reverse_append]
    refine dropWhile_append (fun c hc => hafter c (List.mem_reverse.mp hc)) fun c hc => hcore c ?_
    exact List.mem_reverse.mp (List.mem_of_mem_head? hc)
  rw [trimBlank, trimBoth, hfront, hback, List.reverse_reverse]

end Text

lemma Decimal.Numeral.not_blank {cs : List Char} {n : Nat} (h : Decimal.Numeral cs n) :
    cs ≠ [] ∧ ∀ c ∈ cs, Text.isBlank c = false := by
  obtain ⟨digits, hcs, hne, hdigits, -⟩ := h
  have hblank : ∀ c ∈ digits, Text.isBlank c = false := fun c hc =>
    Text.isBlank_of_isDigit (Decimal.isDigit_iff.mpr (hdigits c hc))
  rcases hcs with rfl | rfl
  · exact ⟨hne, hblank⟩
  · exact ⟨List.cons_ne_nil _ _, List.forall_mem_cons.mpr ⟨by decide, hblank⟩⟩

namespace Snowflake

def Written (text : String) (n : Nat) : Prop :=
  ∃ before numeral after, text.toList = before ++ numeral ++ after ∧
    (∀ c ∈ before, Text.isBlank c = true) ∧ (∀ c ∈ after, Text.isBlank c = true) ∧ Decimal.Numeral numeral n

variable {text : String} {s : Snowflake}

lemma written_iff {n : Nat} : Written text n ↔ Decimal.Numeral (Text.trimBlank text.toList) n := by
  constructor
  · rintro ⟨before, numeral, after, htext, hbefore, hafter, hnumeral⟩
    obtain ⟨hne, hblank⟩ := hnumeral.not_blank
    rwa [htext, Text.trimBlank_append hbefore hblank hne hafter]
  · intro hnumeral
    obtain ⟨before, after, htext, hbefore, hafter⟩ := Text.exists_trimBlank text.toList
    exact ⟨before, _, after, htext, hbefore, hafter, hnumeral⟩

lemma toNat_toUInt64 {n : Nat} (h : n ≤ 0xFFFFFFFFFFFFFFFF) : n.toUInt64.toNat = n :=
  UInt64.toNat_ofNat_of_lt' (Nat.lt_succ_of_le h)

lemma parse_eq_ok_iff : parse text = .ok s ↔ Written text s.id.toNat := by
  have hbound : s.id.toNat ≤ 0xFFFFFFFFFFFFFFFF := Nat.le_of_lt_succ s.id.toNat_lt
  rw [written_iff, parse]
  constructor
  · intro h
    cases hread : Decimal.readUnsigned 0xFFFFFFFFFFFFFFFF (Text.trimBlank text.toList) with
    | error e =>
      rw [hread] at h
      cases h
    | ok n =>
      rw [hread] at h
      obtain ⟨hnumeral, hn⟩ := Decimal.readUnsigned_eq_ok.mp hread
      obtain rfl := Except.ok.inj h
      rwa [toNat_toUInt64 hn]
  · intro hnumeral
    rw [Decimal.readUnsigned_eq_ok.mpr ⟨hnumeral, hbound⟩]
    simp [Except.map]

lemma text_toList (s : Snowflake) : s.text.toList = Nat.toDigits 10 s.id.toNat := by
  simp [text]

lemma isDigit_of_mem_text {s : Snowflake} {c : Char} (hc : c ∈ s.text.toList) :
    Decimal.isDigit c = true := by
  rw [text_toList] at hc
  exact Decimal.isDigit_of_mem_toDigits hc

lemma parse_text (s : Snowflake) : parse s.text = .ok s := by
  have hnumeral : Decimal.Numeral s.text.toList s.id.toNat := s.text_toList ▸ Decimal.numeral_toDigits _
  exact parse_eq_ok_iff.mpr ⟨[], s.text.toList, [], by simp, nofun, nofun, hnumeral⟩

lemma parse?_text (s : Snowflake) : parse? s.text = some s := by
  rw [parse?, parse_text]
  rfl

lemma ofJson_str (x : String) : ofJson? (.str x) = parse? x := by
  rw [ofJson?]

lemma readsBack (s : Snowflake) : ReadsBack s :=
  ⟨(ofJson_str s.text).trans (parse?_text s), nofun⟩

lemma text_injective {s t : Snowflake} (h : s.text = t.text) : s = t := by
  have := congrArg parse? h
  rw [parse?_text, parse?_text] at this
  exact Option.some.inj this

end Snowflake

end DiscordBot
