import DiscordBot.Proofs.Toml.Quoted
import DiscordBot.Toml.Reader
import Mathlib.Data.List.TakeWhile

/-! What is read of a key, a value or the space between them does not depend on what follows it. -/

namespace DiscordBot.Toml

def Skips (skip : List Char → Option (List Char)) (cs t : List Char) : Prop :=
  ∃ pre, cs = pre ++ t ∧ ∀ t', Alike t t' → skip (pre ++ t') = some t'

def Takes {α : Type} (take : List Char → Option (α × List Char)) (cs : List Char) (x : α)
    (t : List Char) : Prop :=
  ∃ pre, pre ≠ [] ∧ cs = pre ++ t ∧ ∀ t', Alike t t' → take (pre ++ t') = some (x, t')

def TakesWithin {α : Type} (take : Nat → List Char → Option (α × List Char)) (cs : List Char) (x : α)
    (t : List Char) : Prop :=
  ∃ pre, pre ≠ [] ∧ cs = pre ++ t ∧
    ∀ fuel t', pre.length ≤ fuel → Alike t t' → take fuel (pre ++ t') = some (x, t')

lemma TakesWithin.of_succ {α : Type} {cs t : List Char}
    {take : Nat → List Char → Option (α × List Char)} {x : α} (pre : List Char)
    (hne : pre ≠ []) (hcs : cs = pre ++ t)
    (htake : ∀ fuel t', pre.length ≤ fuel + 1 → Alike t t' → take (fuel + 1) (pre ++ t') = some (x, t')) :
    TakesWithin take cs x t := by
  refine ⟨pre, hne, hcs, fun fuel t' hfuel ht => ?_⟩
  obtain ⟨fuel, rfl⟩ : ∃ n, fuel = n + 1 :=
    Nat.exists_eq_add_one.mpr (by have := List.length_pos_iff.mpr hne; omega)
  exact htake fuel t' hfuel ht

section Space

variable {p : Char → Bool} {cs t : List Char}

lemma span_alike {t' : List Char} (h : Alike (cs.dropWhile p) t') :
    (cs.takeWhile p ++ t').takeWhile p = cs.takeWhile p ∧ (cs.takeWhile p ++ t').dropWhile p = t' := by
  have hword : ∀ c ∈ cs.takeWhile p, p c = true := fun c => List.mem_takeWhile_imp
  have hstop : t'.takeWhile p = [] ∧ t'.dropWhile p = t' := by
    cases t' with
    | nil => exact ⟨rfl, rfl⟩
    | cons c r =>
      have hc := List.head?_dropWhile_not p cs
      rw [← h.head?] at hc
      have hc : p c = false := by simpa using hc
      simp [hc]
  rw [List.takeWhile_append_of_pos hword, List.dropWhile_append_of_pos hword, hstop.1, hstop.2]
  simp

lemma skips_dropWhile (p : Char → Bool) (cs : List Char) :
    Skips (fun cs => some (cs.dropWhile p)) cs (cs.dropWhile p) :=
  ⟨cs.takeWhile p, List.takeWhile_append_dropWhile.symm, fun _ h => congrArg some (span_alike h).2⟩

lemma Skips.front {skip skip' : List Char → Option (List Char)} (front : List Char)
    (hskip : ∀ r, Alike cs r → ∀ t, skip' r = some t → skip (front ++ r) = some t) (h : Skips skip' cs t) :
    Skips skip (front ++ cs) t := by
  obtain ⟨pre, rfl, hpre⟩ := h
  refine ⟨front ++ pre, by simp, fun t' ht => ?_⟩
  rw [List.append_assoc]
  exact hskip _ (ht.append pre) _ (hpre t' ht)

lemma no_feed_of_alike {c : Char} {r r' : List Char} (h : ∀ rest, c = '\r' → r = '\n' :: rest → False)
    (hr : Alike (c :: r) (c :: r')) : ∀ rest, c = '\r' → r' = '\n' :: rest → False := by
  rintro rest hc rfl
  obtain ⟨rest, heq⟩ := hr.symm.cons₂
  exact h rest hc (List.cons.inj heq).2

theorem skipSpace_eq_some {comment : Bool} (h : skipSpace comment cs = some t) :
    Skips (skipSpace comment) cs t := by
  fun_induction skipSpace comment cs with
  | case1 comment =>
    obtain rfl := Option.some.inj h
    refine ⟨[], rfl, fun t' ht => ?_⟩
    rw [ht.nil, List.append_nil, skipSpace]
  | case2 comment r ih => exact (ih h).front ['\n'] fun r _ t hr => by simpa [skipSpace] using hr
  | case3 comment r ih => exact (ih h).front ['\r', '\n'] fun r _ t hr => by simpa [skipSpace] using hr
  | case4 => cases h
  | case5 c r hfeed hreturn hcontrol ih =>
    refine (ih h).front [c] fun r' hr t hskip => ?_
    rw [List.singleton_append, skipSpace, if_neg hcontrol, hskip]
    · exact hfeed
    · exact no_feed_of_alike hreturn (hr.append [c])
  | case6 r ih => exact (ih h).front ['#'] fun r _ t hr => hr
  | case7 c r hfeed hreturn hcomment hblank ih =>
    refine (ih h).front [c] fun r' hr t hskip => ?_
    rw [List.singleton_append, skipSpace, if_pos hblank, hskip]
    · exact hfeed
    · exact no_feed_of_alike hreturn (hr.append [c])
    · exact hcomment
  | case8 c r hfeed hreturn hcomment hblank =>
    obtain rfl := Option.some.inj h
    refine ⟨[], rfl, fun t' ht => ?_⟩
    obtain ⟨r', rfl⟩ := ht.cons
    rw [List.nil_append, skipSpace, if_neg hblank]
    · exact hfeed
    · exact no_feed_of_alike hreturn ht
    · exact hcomment

def endBare : List Char → Option (List Char)
  | [] => some []
  | '#' :: r => skipSpace true r
  | r => (afterBreak? r).bind (skipSpace false)

lemma endLine_eq (cs : List Char) : endLine cs = endBare (cs.dropWhile isBlank) := rfl

lemma endBare_eq_some (h : endBare cs = some t) : Skips endBare cs t := by
  fun_cases endBare cs with
  | case1 =>
    obtain rfl := Option.some.inj h
    refine ⟨[], rfl, fun t' ht => ?_⟩
    rw [ht.nil, List.append_nil, endBare]
  | case2 r => exact (skipSpace_eq_some h).front ['#'] fun _ _ _ hr => hr
  | case3 =>
    rw [endBare] at h
    · obtain ⟨r, hbreak, h⟩ := Option.bind_eq_some_iff.mp h
      rcases afterBreak?_eq_some.mp hbreak with rfl | rfl
      · exact (skipSpace_eq_some h).front ['\n'] fun _ _ _ hr => hr
      · exact (skipSpace_eq_some h).front ['\r', '\n'] fun _ _ _ hr => hr
    all_goals assumption

theorem endLine_eq_some (h : endLine cs = some t) : Skips endLine cs t := by
  obtain ⟨pre, hrest, hpre⟩ := endBare_eq_some ((endLine_eq cs).symm.trans h)
  refine ⟨cs.takeWhile isBlank ++ pre, ?_, fun t' ht => ?_⟩
  · rw [List.append_assoc, ← hrest, List.takeWhile_append_dropWhile]
  · have hlike : Alike (cs.dropWhile isBlank) (pre ++ t') := hrest ▸ ht.append pre
    rw [endLine_eq, List.append_assoc, (span_alike hlike).2]
    exact hpre t' ht

end Space

section Plain

variable {word cs t : List Char} {v : Value}

def afterWord (word : List Char) : List Char → Option (Value × List Char)
  | ' ' :: c :: r =>
    if isDate word && Decimal.isDigit c then
      (scalar? (word ++ ' ' :: (c :: r).takeWhile isPlain)).map fun v => (v, (c :: r).dropWhile isPlain)
    else (scalar? word).map fun v => (v, ' ' :: c :: r)
  | rest => (scalar? word).map fun v => (v, rest)

lemma scanPlain_eq (cs : List Char) :
    scanPlain cs = afterWord (cs.takeWhile isPlain) (cs.dropWhile isPlain) := by
  unfold scanPlain
  fun_cases afterWord (cs.takeWhile isPlain) (cs.dropWhile isPlain) with
  | case1 | case2 | case3 => simp_all

lemma isPlain_of_isDigit {c : Char} (h : Decimal.isDigit c = true) : isPlain c = true := by
  have hne : ∀ x : Char, Decimal.isDigit x = false → (c == x) = false := by
    rintro x hx
    rw [beq_eq_false_iff_ne]
    rintro rfl
    cases h.symm.trans hx
  simp [isPlain, isBlank, hne ' ' rfl, hne '\t' rfl, hne '\r' rfl, hne '\n' rfl, hne ',' rfl, hne '#' rfl,
    hne ']' rfl, hne '\x7d' rfl]

lemma afterWord_eq_some (h : afterWord word cs = some (v, t)) :
    word ≠ [] ∧ ∃ pre, cs = pre ++ t ∧ ∀ t', Alike t t' → afterWord word (pre ++ t') = some (v, t') := by
  have hempty : scalar? [] = none := rfl
  fun_cases afterWord word cs with
  | case1 c r hdate =>
    rw [afterWord, if_pos hdate] at h
    obtain ⟨v, hv, h⟩ := Option.map_eq_some_iff.mp h
    obtain ⟨rfl, rfl⟩ := Prod.mk.inj h
    have hc := isPlain_of_isDigit (Bool.and_eq_true_iff.mp hdate).2
    refine ⟨?_, ' ' :: (c :: r).takeWhile isPlain, by simp, fun t' ht => ?_⟩
    · rintro rfl
      cases hdate
    · obtain ⟨htake, hdrop⟩ := span_alike ht
      have hcons : (c :: r).takeWhile isPlain ++ t' = c :: (r.takeWhile isPlain ++ t') := by
        rw [List.takeWhile_cons, if_pos hc, List.cons_append]
      rw [List.cons_append, hcons, afterWord, if_pos hdate, ← hcons, htake, hdrop, hv]
      rfl
  | case2 c r hdate =>
    rw [afterWord, if_neg hdate] at h
    obtain ⟨v, hv, h⟩ := Option.map_eq_some_iff.mp h
    obtain ⟨rfl, rfl⟩ := Prod.mk.inj h
    refine ⟨?_, [], rfl, fun t' ht => ?_⟩
    · rintro rfl
      cases hempty.symm.trans hv
    · obtain ⟨r', rfl⟩ := ht.cons₂
      rw [List.nil_append, afterWord, if_neg hdate, hv]
      rfl
  | case3 cs hspace =>
    rw [afterWord] at h
    · obtain ⟨v, hv, h⟩ := Option.map_eq_some_iff.mp h
      obtain ⟨rfl, rfl⟩ := Prod.mk.inj h
      refine ⟨?_, [], rfl, fun t' ht => ?_⟩
      · rintro rfl
        cases hempty.symm.trans hv
      · rw [List.nil_append, afterWord, hv]
        · rfl
        · rintro c r rfl
          obtain ⟨r', rfl⟩ := ht.symm.cons₂
          exact hspace c r' rfl
    · exact hspace

theorem scanPlain_eq_some (h : scanPlain cs = some (v, t)) : Takes scanPlain cs v t := by
  obtain ⟨hword, pre, hrest, hpre⟩ := afterWord_eq_some ((scanPlain_eq cs).symm.trans h)
  refine ⟨cs.takeWhile isPlain ++ pre, by simp [hword], ?_, fun t' ht => ?_⟩
  · rw [List.append_assoc, ← hrest, List.takeWhile_append_dropWhile]
  · have hlike : Alike (cs.dropWhile isPlain) (pre ++ t') := hrest ▸ ht.append pre
    obtain ⟨htake, hdrop⟩ := span_alike hlike
    rw [scanPlain_eq, List.append_assoc, htake, hdrop]
    exact hpre t' ht

end Plain

section Keys

variable {cs t : List Char} {key : String} {keys : List String}

lemma Takes.of_skips {α : Type} {skip : List Char → Option (List Char)}
    {take : List Char → Option (α × List Char)} {r : List Char} {x : α} (hskip : Skips skip cs r)
    (htake : Takes take r x t) : Takes (fun cs => (skip cs).bind take) cs x t := by
  obtain ⟨skipped, rfl, hskipped⟩ := hskip
  obtain ⟨pre, hne, rfl, hpre⟩ := htake
  refine ⟨skipped ++ pre, by simp [hne], by simp, fun t' ht => ?_⟩
  rw [List.append_assoc]
  exact Option.bind_eq_some_iff.mpr ⟨_, hskipped _ (ht.append pre), hpre t' ht⟩

lemma scanKey_bare {c : Char} (hc : isBareKeyChar c = true) (cs : List Char) :
    scanKey (c :: cs) =
      some (String.ofList ((c :: cs).takeWhile isBareKeyChar), (c :: cs).dropWhile isBareKeyChar) := by
  rw [scanKey]
  · simp [hc]
  · rintro r h
    cases (List.cons.inj h).1 ▸ hc
  · rintro r h
    cases (List.cons.inj h).1 ▸ hc

lemma scanKey_eq_some (h : scanKey cs = some (key, t)) : Takes scanKey cs key t := by
  fun_cases scanKey cs with
  | case1 r =>
    obtain ⟨⟨x, r⟩, hx, h⟩ := Option.map_eq_some_iff.mp h
    obtain ⟨rfl, rfl⟩ := Prod.mk.inj h
    obtain ⟨pre, rfl, hpre⟩ := scanBasic_eq_some hx
    exact ⟨'"' :: pre ++ ['"'], by simp, by simp, fun t' _ => by simp [scanKey, hpre]⟩
  | case2 r =>
    obtain ⟨⟨x, r⟩, hx, h⟩ := Option.map_eq_some_iff.mp h
    obtain ⟨rfl, rfl⟩ := Prod.mk.inj h
    obtain ⟨pre, rfl, hpre⟩ := scanLiteral_eq_some hx
    exact ⟨'\'' :: pre ++ ['\''], by simp, by simp, fun t' _ => by simp [scanKey, hpre]⟩
  | case3 cs hbasic hliteral k hk =>
    rw [scanKey, if_pos hk] at h
    · cases h
    · exact hbasic
    · exact hliteral
  | case4 cs hbasic hliteral k hk =>
    cases cs with
    | nil => cases hk rfl
    | cons c cs =>
      have hc : isBareKeyChar c = true := by
        by_contra hc
        simp [k, hc] at hk
      rw [scanKey_bare hc] at h
      obtain ⟨rfl, rfl⟩ := Prod.mk.inj (Option.some.inj h)
      refine ⟨(c :: cs).takeWhile isBareKeyChar, by simp [hc], List.takeWhile_append_dropWhile.symm, ?_⟩
      intro t' ht
      obtain ⟨htake, hdrop⟩ := span_alike ht
      have hcons : (c :: cs).takeWhile isBareKeyChar ++ t' = c :: (cs.takeWhile isBareKeyChar ++ t') := by
        rw [List.takeWhile_cons, if_pos hc, List.cons_append]
      rw [hcons, scanKey_bare hc, ← hcons, htake, hdrop]

def spacedKey (cs : List Char) : Option (String × List Char) :=
  (scanKey (cs.dropWhile isBlank)).map fun (key, r) => (key, r.dropWhile isBlank)

lemma scanKeys_succ (fuel : Nat) (cs : List Char) :
    scanKeys (fuel + 1) cs = (spacedKey cs).bind fun y =>
      match y.2 with
      | '.' :: r => (scanKeys fuel r).bind fun z => some (y.1 :: z.1, z.2)
      | r => some ([y.1], r) := by
  rw [scanKeys, spacedKey]
  cases scanKey (cs.dropWhile isBlank) <;> rfl

lemma spacedKey_eq_some (h : spacedKey cs = some (key, t)) : Takes spacedKey cs key t := by
  obtain ⟨⟨key, r⟩, hkey, h⟩ := Option.map_eq_some_iff.mp h
  obtain ⟨rfl, rfl⟩ := Prod.mk.inj h
  obtain ⟨pre, hne, hcs, hpre⟩ := (scanKey_eq_some hkey).of_skips (skips_dropWhile isBlank cs)
  refine ⟨pre ++ r.takeWhile isBlank, by simp [hne], ?_, fun t' ht => ?_⟩
  · rw [List.append_assoc, List.takeWhile_append_dropWhile, hcs]
  · obtain ⟨htake, hdrop⟩ := span_alike ht
    have hlike : Alike r (r.takeWhile isBlank ++ t') := by
      simpa using ht.append (r.takeWhile isBlank)
    have hscan := hpre _ hlike
    dsimp only [Option.bind_some] at hscan
    rw [spacedKey, List.append_assoc, hscan, Option.map_some]
    exact congrArg (fun r => some (key, r)) hdrop

theorem scanKeys_eq_some {fuel : Nat} (h : scanKeys fuel cs = some (keys, t)) :
    TakesWithin scanKeys cs keys t := by
  induction fuel generalizing cs keys with
  | zero => cases h
  | succ fuel ih =>
    rw [scanKeys_succ] at h
    obtain ⟨⟨key, r⟩, hkey, hrest⟩ := Option.bind_eq_some_iff.mp h
    obtain ⟨pre, hne, rfl, hpre⟩ := spacedKey_eq_some hkey
    dsimp only at hrest
    split at hrest
    · rename_i r
      obtain ⟨⟨keys, r⟩, hkeys, heq⟩ := Option.bind_eq_some_iff.mp hrest
      obtain ⟨rfl, rfl⟩ := Prod.mk.inj (Option.some.inj heq)
      obtain ⟨pre', hne', rfl, hpre'⟩ := ih hkeys
      refine .of_succ (pre ++ '.' :: pre') (by simp) (by simp) fun fuel t' hfuel ht => ?_
      have hscan := hpre ('.' :: (pre' ++ t')) (ht.append ('.' :: pre'))
      rw [scanKeys_succ, List.append_assoc, List.cons_append, hscan]
      simp [hpre' fuel t' (by simp at hfuel; omega) ht]
    · rename_i hdot
      obtain ⟨rfl, rfl⟩ := Prod.mk.inj (Option.some.inj hrest)
      refine .of_succ pre hne rfl fun fuel t' _ ht => ?_
      rw [scanKeys_succ, hpre t' ht, Option.bind_some]
      dsimp only
      split
      · obtain ⟨r', rfl⟩ := ht.symm.cons
        exact (hdot r' rfl).elim
      · rfl

end Keys

end DiscordBot.Toml
