import DiscordBot.Toml.Quoted
import Mathlib.Data.List.Basic
import Mathlib.Tactic.Common

/-! What is read of a quoted text does not depend on what follows it. -/

namespace DiscordBot.Toml

def Alike (t t' : List Char) : Prop := t.take 2 = t'.take 2

namespace Alike

variable {t t' : List Char}

lemma append (h : Alike t t') (pre : List Char) : Alike (pre ++ t) (pre ++ t') := by
  unfold Alike at h ⊢
  match pre with
  | [] => exact h
  | [a] =>
    have hfirst := congrArg (List.take 1) h
    simpa [List.take_take] using hfirst
  | a :: b :: pre => simp

lemma append' (h : Alike t t') (pre : List Char) {a b c : Char} :
    Alike (pre ++ a :: b :: c :: t) (pre ++ a :: b :: c :: t') := by
  simpa using h.append (pre ++ [a, b, c])

lemma head? (h : Alike t t') : t'.head? = t.head? := by
  have hfirst := congrArg List.head? h
  cases t <;> cases t' <;> simp_all

lemma nil (h : Alike [] t') : t' = [] := List.head?_eq_none_iff.mp h.head?

lemma symm (h : Alike t t') : Alike t' t := Eq.symm h

lemma cons₂ {a b : Char} {r : List Char} (h : Alike (a :: b :: r) t') : ∃ r', t' = a :: b :: r' :=
  ⟨t'.drop 2, by rw [← List.take_append_drop 2 t', ← h]; simp⟩

lemma cons {a : Char} {r : List Char} (h : Alike (a :: r) t') : ∃ r', t' = a :: r' :=
  List.head?_eq_some_iff.mp h.head?

end Alike

lemma prepend_eq_some {cs x t : List Char} {y : Option (List Char × List Char)} :
    prepend cs y = some (x, t) ↔ ∃ x', y = some (x', t) ∧ x = cs ++ x' := by
  cases y with
  | none => simp [prepend]
  | some y =>
    obtain ⟨x', r⟩ := y
    simp [prepend, eq_comm, and_comm]

def escape? : List Char → Option (Char × List Char)
  | 'x' :: a :: b :: r => (charOfCode? [a, b]).map fun c => (c, r)
  | 'u' :: a :: b :: c :: d :: r => (charOfCode? [a, b, c, d]).map fun c => (c, r)
  | 'U' :: a :: b :: c :: d :: e :: f :: g :: h :: r =>
    (charOfCode? [a, b, c, d, e, f, g, h]).map fun c => (c, r)
  | e :: r => (simpleEscape? e).map fun c => (c, r)
  | [] => none

lemma escape?_eq_some {cs t : List Char} {c : Char} (h : escape? cs = some (c, t)) :
    ∃ pre, pre ≠ [] ∧ cs = pre ++ t ∧ ∀ t', escape? (pre ++ t') = some (c, t') := by
  unfold escape? at h
  split at h
  · rename_i a b r
    obtain ⟨c, hc, h⟩ := Option.map_eq_some_iff.mp h
    obtain ⟨rfl, rfl⟩ := Prod.mk.inj h
    exact ⟨['x', a, b], by simp, rfl, fun t' => by simp [escape?, hc]⟩
  · rename_i d₁ d₂ d₃ d₄ r
    obtain ⟨c, hc, h⟩ := Option.map_eq_some_iff.mp h
    obtain ⟨rfl, rfl⟩ := Prod.mk.inj h
    exact ⟨['u', d₁, d₂, d₃, d₄], by simp, rfl, fun t' => by simp [escape?, hc]⟩
  · rename_i d₁ d₂ d₃ d₄ d₅ d₆ d₇ d₈ r
    obtain ⟨c, hc, h⟩ := Option.map_eq_some_iff.mp h
    obtain ⟨rfl, rfl⟩ := Prod.mk.inj h
    exact ⟨['U', d₁, d₂, d₃, d₄, d₅, d₆, d₇, d₈], by simp, rfl, fun t' => by simp [escape?, hc]⟩
  · rename_i e r _ _ _
    obtain ⟨c, hc, h⟩ := Option.map_eq_some_iff.mp h
    obtain ⟨rfl, rfl⟩ := Prod.mk.inj h
    have he : e ≠ 'x' ∧ e ≠ 'u' ∧ e ≠ 'U' := by
      refine ⟨?_, ?_, ?_⟩ <;> rintro rfl <;> cases hc
    refine ⟨[e], by simp, rfl, fun t' => ?_⟩
    rw [List.singleton_append, escape?] <;> simp_all
  · cases h

lemma scanBasic_escape (cs : List Char) :
    scanBasic ('\\' :: cs) = (escape? cs).bind fun e => prepend [e.1] (scanBasic e.2) := by
  unfold escape?
  split
  · rename_i a b r
    cases hc : charOfCode? [a, b] <;> simp [scanBasic, hc]
  · rename_i a b c d r
    cases hc : charOfCode? [a, b, c, d] <;> simp [scanBasic, hc]
  · rename_i a b c d e f g h r
    cases hc : charOfCode? [a, b, c, d, e, f, g, h] <;> simp [scanBasic, hc]
  · rename_i e r hx hu hU
    rw [scanBasic]
    · cases hc : simpleEscape? e <;> simp
    · exact hx
    · exact hu
    · exact hU
  · rfl

lemma scanBasic_char {c : Char} (hquote : c ≠ '"') (hescape : c ≠ '\\') (cs : List Char) :
    scanBasic (c :: cs) = if isControl c then none else prepend [c] (scanBasic cs) := by
  rw [scanBasic] <;> simp_all

theorem scanBasic_eq_some {cs x t : List Char} (h : scanBasic cs = some (x, t)) :
    ∃ pre, cs = pre ++ '"' :: t ∧ ∀ t', scanBasic (pre ++ '"' :: t') = some (x, t') := by
  match cs with
  | [] => cases h
  | c :: cs =>
    by_cases hquote : c = '"'
    · subst hquote
      obtain ⟨rfl, rfl⟩ := Prod.mk.inj (Option.some.inj h)
      exact ⟨[], rfl, fun t' => rfl⟩
    by_cases hescape : c = '\\'
    · subst hescape
      rw [scanBasic_escape] at h
      obtain ⟨⟨c, r⟩, he, h⟩ := Option.bind_eq_some_iff.mp h
      obtain ⟨x, hx, rfl⟩ := prepend_eq_some.mp h
      obtain ⟨escape, hne, rfl, hescape⟩ := escape?_eq_some he
      have hlength : r.length < (escape ++ r).length + 1 := Nat.lt_succ_of_le (by simp)
      obtain ⟨pre, rfl, hpre⟩ := scanBasic_eq_some hx
      refine ⟨'\\' :: (escape ++ pre), by simp, fun t' => ?_⟩
      rw [List.cons_append, List.append_assoc, scanBasic_escape, hescape]
      simp [hpre, prepend]
    · rw [scanBasic_char hquote hescape] at h
      split at h
      · cases h
      · rename_i hcontrol
        obtain ⟨x, hx, rfl⟩ := prepend_eq_some.mp h
        obtain ⟨pre, rfl, hpre⟩ := scanBasic_eq_some hx
        refine ⟨c :: pre, rfl, fun t' => ?_⟩
        rw [List.cons_append, scanBasic_char hquote hescape, if_neg hcontrol, hpre]
        rfl
termination_by cs.length

def Verbatim (x : List Char) : Prop := ∀ c ∈ x, c ≠ '"' ∧ c ≠ '\\' ∧ isControl c = false

instance : DecidablePred Verbatim := fun x => List.decidableBAll _ x

lemma Verbatim.scanBasic {x : List Char} (h : Verbatim x) (t : List Char) :
    scanBasic (x ++ '"' :: t) = some (x, t) := by
  induction x with
  | nil => rfl
  | cons c x ih =>
    obtain ⟨⟨hquote, hescape, hcontrol⟩, hx⟩ := List.forall_mem_cons.mp h
    rw [List.cons_append, scanBasic_char hquote hescape, hcontrol, ih hx]
    rfl

theorem scanLiteral_eq_some {cs x t : List Char} (h : scanLiteral cs = some (x, t)) :
    ∃ pre, cs = pre ++ '\'' :: t ∧ ∀ t', scanLiteral (pre ++ '\'' :: t') = some (x, t') := by
  induction cs generalizing x with
  | nil => cases h
  | cons c cs ih =>
    by_cases hquote : c = '\''
    · subst hquote
      obtain ⟨rfl, rfl⟩ := Prod.mk.inj (Option.some.inj h)
      exact ⟨[], rfl, fun t' => rfl⟩
    · have hchar : ∀ r, scanLiteral (c :: r) = if isControl c then none else prepend [c] (scanLiteral r) :=
        fun r => by rw [scanLiteral]; exact hquote
      rw [hchar] at h
      split at h
      · cases h
      · rename_i hcontrol
        obtain ⟨x, hx, rfl⟩ := prepend_eq_some.mp h
        obtain ⟨pre, rfl, hpre⟩ := ih hx
        refine ⟨c :: pre, rfl, fun t' => ?_⟩
        rw [List.cons_append, hchar, if_neg hcontrol, hpre]
        rfl

def Closes (quote : Char) (cs : List Char) : Prop := [quote, quote, quote] <+: cs

lemma Closes.of_alike {quote c : Char} {r r' : List Char} (hr : Alike r r') (h : Closes quote (c :: r')) :
    Closes quote (c :: r) := by
  obtain ⟨rfl, rest, rfl⟩ := List.cons_prefix_cons.mp h
  refine List.cons_prefix_cons.mpr ⟨rfl, ?_⟩
  rw [← List.take_append_drop 2 r, hr]
  exact List.prefix_append ..

/-- A text of several lines is read up to its closing quotes, by what it consists of alone. -/
def ReadsLines (scan : List Char → Option (List Char × List Char)) (quote : Char)
    (cs x t : List Char) : Prop :=
  ∃ pre, cs = pre ++ quote :: quote :: quote :: t ∧
    ∀ t', Alike t t' → scan (pre ++ quote :: quote :: quote :: t') = some (x, t')

lemma ReadsLines.of_closes {scan : List Char → Option (List Char × List Char)} {quote : Char}
    {cs x t : List Char}
    (hfive : ∀ r, scan (quote :: quote :: quote :: quote :: quote :: r) = some ([quote, quote], r))
    (hfour : ∀ r, r.head? ≠ some quote → scan (quote :: quote :: quote :: quote :: r) = some ([quote], r))
    (hthree : ∀ r, r.head? ≠ some quote → scan (quote :: quote :: quote :: r) = some ([], r))
    (hclose : Closes quote cs) (h : scan cs = some (x, t)) : ReadsLines scan quote cs x t := by
  obtain ⟨r, rfl⟩ := hclose
  change scan (quote :: quote :: quote :: r) = some (x, t) at h
  by_cases hr : r.head? = some quote
  · obtain ⟨r, rfl⟩ := List.head?_eq_some_iff.mp hr
    by_cases hr : r.head? = some quote
    · obtain ⟨r, rfl⟩ := List.head?_eq_some_iff.mp hr
      rw [hfive] at h
      obtain ⟨rfl, rfl⟩ := Prod.mk.inj (Option.some.inj h)
      exact ⟨[quote, quote], rfl, fun t' _ => hfive t'⟩
    · rw [hfour r hr] at h
      obtain ⟨rfl, rfl⟩ := Prod.mk.inj (Option.some.inj h)
      exact ⟨[quote], rfl, fun t' ht => hfour t' (ht.head? ▸ hr)⟩
  · rw [hthree r hr] at h
    obtain ⟨rfl, rfl⟩ := Prod.mk.inj (Option.some.inj h)
    exact ⟨[], rfl, fun t' ht => hthree t' (ht.head? ▸ hr)⟩

lemma scanBasicLines_closes {gap : Bool} {cs x t : List Char} (hclose : Closes '"' cs)
    (h : scanBasicLines gap cs = some (x, t)) : ReadsLines (scanBasicLines gap) '"' cs x t := by
  refine .of_closes (fun _ => rfl) (fun r hr => ?_) (fun r hr => ?_) hclose h
  all_goals
    rw [scanBasicLines]
    all_goals
      rintro r rfl
      exact hr rfl

lemma scanLiteralLines_closes {cs x t : List Char} (hclose : Closes '\'' cs)
    (h : scanLiteralLines cs = some (x, t)) : ReadsLines scanLiteralLines '\'' cs x t := by
  refine .of_closes (fun _ => rfl) (fun r hr => ?_) (fun r hr => ?_) hclose h
  all_goals
    rw [scanLiteralLines]
    all_goals
      rintro r rfl
      exact hr rfl

lemma scanBasicLines_escape (gap : Bool) (cs : List Char) :
    scanBasicLines gap ('\\' :: cs) =
      match escape? cs with
      | some (c, r) => prepend [c] (scanBasicLines false r)
      | none => if joinsLines cs then scanBasicLines true cs.tail else none := by
  have hplain : ∀ r, joinsLines ('x' :: r) = false ∧ joinsLines ('u' :: r) = false ∧
      joinsLines ('U' :: r) = false := fun _ => ⟨rfl, rfl, rfl⟩
  fun_cases escape? cs with
  | case1 a b r => cases hc : charOfCode? [a, b] <;> simp [scanBasicLines, hc, hplain]
  | case2 a b c d r => cases hc : charOfCode? [a, b, c, d] <;> simp [scanBasicLines, hc, hplain]
  | case3 a b c d e f g h r =>
    cases hc : charOfCode? [a, b, c, d, e, f, g, h] <;> simp [scanBasicLines, hc, hplain]
  | case4 e r hx hu hU =>
    rw [scanBasicLines]
    · cases hc : simpleEscape? e <;> simp
    · exact hx
    · exact hu
    · exact hU
  | case5 => rfl

lemma scanBasicLines_char {gap : Bool} {c : Char} {cs : List Char} (hclose : ¬Closes '"' (c :: cs))
    (hescape : c ≠ '\\') (hbreak : ¬(c = '\r' ∧ cs.head? = some '\n')) :
    scanBasicLines gap (c :: cs) =
      if isBlank c || c == '\n' then
        if gap then scanBasicLines true cs else prepend [c] (scanBasicLines false cs)
      else if isControl c then none
      else prepend [c] (scanBasicLines false cs) := by
  have hopen : ∀ r, c = '"' → cs ≠ '"' :: '"' :: r := fun r hc hr => hclose ⟨r, by rw [hc, hr]; rfl⟩
  rw [scanBasicLines]
  · exact fun r hc => hopen _ hc
  · exact fun r hc => hopen _ hc
  · exact fun r hc => hopen _ hc
  · exact fun _ _ _ hc _ => hescape hc
  · exact fun _ _ _ _ _ hc _ => hescape hc
  · exact fun _ _ _ _ _ _ _ _ _ hc _ => hescape hc
  · exact fun _ _ hc _ => hescape hc
  · exact fun r hc hr => hbreak ⟨hc, by rw [hr]; rfl⟩

lemma afterBreak?_eq_some {cs r : List Char} :
    afterBreak? cs = some r ↔ cs = '\n' :: r ∨ cs = '\r' :: '\n' :: r := by
  constructor
  · intro h
    unfold afterBreak? at h
    split at h <;> cases h
    · exact .inl rfl
    · exact .inr rfl
  · rintro (rfl | rfl) <;> rfl

lemma Alike.isSome_afterBreak? {t t' : List Char} (h : Alike t t') :
    (afterBreak? t).isSome = (afterBreak? t').isSome := by
  have himp : ∀ {t t'}, Alike t t' → (afterBreak? t).isSome → (afterBreak? t').isSome := by
    intro t t' h hbreak
    obtain ⟨r, hr⟩ := Option.isSome_iff_exists.mp hbreak
    rcases afterBreak?_eq_some.mp hr with rfl | rfl
    · obtain ⟨r', rfl⟩ := h.cons
      rfl
    · obtain ⟨r', rfl⟩ := h.cons₂
      rfl
  exact Bool.eq_iff_iff.mpr ⟨himp h, himp h.symm⟩

lemma joinsLines_cons (c : Char) (cs : List Char) :
    joinsLines (c :: cs) = if isBlank c then joinsLines cs else (afterBreak? (c :: cs)).isSome := by
  by_cases hc : isBlank c <;> simp [joinsLines, hc]

lemma joinsLines_quote (p t t' : List Char) : joinsLines (p ++ '"' :: t) = joinsLines (p ++ '"' :: t') := by
  induction p with
  | nil => rfl
  | cons c p ih =>
    have hlike : Alike (c :: (p ++ '"' :: t)) (c :: (p ++ '"' :: t')) := by cases p <;> rfl
    rw [List.cons_append, List.cons_append, joinsLines_cons, joinsLines_cons, ih, hlike.isSome_afterBreak?]

lemma escape?_of_joinsLines {c : Char} {cs : List Char} (h : joinsLines (c :: cs) = true) (t : List Char) :
    escape? (c :: t) = none := by
  have hc : c = ' ' ∨ c = '\t' ∨ c = '\n' ∨ c = '\r' := by
    by_cases hblank : isBlank c
    · simp [isBlank] at hblank
      tauto
    · rw [joinsLines_cons, if_neg hblank] at h
      obtain ⟨r, hr⟩ := Option.isSome_iff_exists.mp h
      rcases afterBreak?_eq_some.mp hr with heq | heq <;> simp [(List.cons.inj heq).1]
  rcases hc with rfl | rfl | rfl | rfl <;> rfl

namespace ReadsLines

variable {gap : Bool} {c : Char} {cs r x t : List Char}

lemma escape (he : escape? cs = some (c, r)) (h : ReadsLines (scanBasicLines false) '"' r x t) :
    ReadsLines (scanBasicLines gap) '"' ('\\' :: cs) (c :: x) t := by
  obtain ⟨escape, -, rfl, hescape⟩ := escape?_eq_some he
  obtain ⟨pre, rfl, hpre⟩ := h
  refine ⟨'\\' :: (escape ++ pre), by simp, fun t' ht => ?_⟩
  rw [List.cons_append, List.append_assoc, scanBasicLines_escape, hescape]
  simp [hpre t' ht, prepend]

lemma join (hjoins : joinsLines cs = true) (h : ReadsLines (scanBasicLines true) '"' cs.tail x t) :
    ReadsLines (scanBasicLines gap) '"' ('\\' :: cs) x t := by
  cases cs with
  | nil => cases hjoins
  | cons e cs =>
    obtain ⟨pre, hcs, hpre⟩ := h
    obtain rfl : cs = _ := hcs
    refine ⟨'\\' :: e :: pre, rfl, fun t' ht => ?_⟩
    rw [← List.cons_append, joinsLines_quote _ _ ('"' :: '"' :: t')] at hjoins
    rw [List.cons_append, List.cons_append, scanBasicLines_escape, escape?_of_joinsLines hjoins]
    rw [List.cons_append] at hjoins
    simpa [hjoins] using hpre t' ht

lemma front {scan scan' : List Char → Option (List Char × List Char)} {quote : Char} {x' : List Char}
    (front : List Char) (hscan : ∀ r, Alike cs r → ∀ t, scan' r = some (x, t) → scan (front ++ r) = some (x', t))
    (h : ReadsLines scan' quote cs x t) : ReadsLines scan quote (front ++ cs) x' t := by
  obtain ⟨pre, rfl, hpre⟩ := h
  refine ⟨front ++ pre, by simp, fun t' ht => ?_⟩
  rw [List.append_assoc]
  exact hscan _ (ht.append' pre) _ (hpre t' ht)

end ReadsLines

theorem scanBasicLines_eq_some {gap : Bool} {cs x t : List Char} (h : scanBasicLines gap cs = some (x, t)) :
    ReadsLines (scanBasicLines gap) '"' cs x t := by
  -- On the length, since an escape and a joined line take several characters.
  induction hn : cs.length using Nat.strongRecOn generalizing gap cs x with
  | ind n ih =>
    subst hn
    cases cs with
    | nil => cases h
    | cons c cs =>
      by_cases hclose : Closes '"' (c :: cs)
      · exact scanBasicLines_closes hclose h
      by_cases hescape : c = '\\'
      · subst hescape
        rw [scanBasicLines_escape] at h
        split at h
        · rename_i c r he
          obtain ⟨x, hx, rfl⟩ := prepend_eq_some.mp h
          obtain ⟨escape, -, rfl, -⟩ := escape?_eq_some he
          have hlength : r.length < ('\\' :: (escape ++ r)).length := Nat.lt_succ_of_le (by simp)
          exact .escape he (ih _ hlength hx rfl)
        · split at h
          · have hlength : cs.tail.length < ('\\' :: cs).length := Nat.lt_succ_of_le (by simp)
            exact .join ‹_› (ih _ hlength h rfl)
          · cases h
      by_cases hbreak : c = '\r' ∧ cs.head? = some '\n'
      · obtain ⟨rfl, hhead⟩ := hbreak
        obtain ⟨cs, rfl⟩ := List.head?_eq_some_iff.mp hhead
        have hscan : ∀ r, scanBasicLines gap ('\r' :: '\n' :: r) =
            if gap then scanBasicLines true r else prepend ['\r', '\n'] (scanBasicLines false r) :=
              fun _ => rfl
        have hlength : cs.length < ('\r' :: '\n' :: cs).length := Nat.lt_succ_of_le (by simp)
        rw [hscan] at h
        split at h
        · exact (ih _ hlength h rfl).front ['\r', '\n'] fun r _ t hr => by simp_all
        · obtain ⟨x, hx, rfl⟩ := prepend_eq_some.mp h
          exact (ih _ hlength hx rfl).front ['\r', '\n'] fun r _ t hr => by simp_all [prepend]
      · have hscan : ∀ r, Alike cs r → scanBasicLines gap (c :: r) = _ := fun r hr =>
          scanBasicLines_char (fun h => hclose (h.of_alike hr)) hescape (hr.head? ▸ hbreak)
        rw [hscan cs rfl] at h
        split at h
        · split at h
          · exact (ih _ (by simp) h rfl).front [c] fun r hr t hread => by simp_all
          · obtain ⟨x, hx, rfl⟩ := prepend_eq_some.mp h
            exact (ih _ (by simp) hx rfl).front [c] fun r hr t hread => by simp_all [prepend]
        · split at h
          · cases h
          · obtain ⟨x, hx, rfl⟩ := prepend_eq_some.mp h
            exact (ih _ (by simp) hx rfl).front [c] fun r hr t hread => by simp_all [prepend]

lemma scanLiteralLines_char {c : Char} {cs : List Char} (hclose : ¬Closes '\'' (c :: cs))
    (hbreak : ¬(c = '\r' ∧ cs.head? = some '\n')) :
    scanLiteralLines (c :: cs) = if isControl c && c != '\n' then none else prepend [c] (scanLiteralLines cs) := by
  have hopen : ∀ r, c = '\'' → cs ≠ '\'' :: '\'' :: r := fun r hc hr => hclose ⟨r, by rw [hc, hr]; rfl⟩
  rw [scanLiteralLines]
  · exact fun r hc => hopen _ hc
  · exact fun r hc => hopen _ hc
  · exact fun r hc => hopen _ hc
  · exact fun r hc hr => hbreak ⟨hc, by rw [hr]; rfl⟩

theorem scanLiteralLines_eq_some {cs x t : List Char} (h : scanLiteralLines cs = some (x, t)) :
    ReadsLines scanLiteralLines '\'' cs x t := by
  induction hn : cs.length using Nat.strongRecOn generalizing cs x with
  | ind n ih =>
    subst hn
    cases cs with
    | nil => cases h
    | cons c cs =>
      by_cases hclose : Closes '\'' (c :: cs)
      · exact scanLiteralLines_closes hclose h
      by_cases hbreak : c = '\r' ∧ cs.head? = some '\n'
      · obtain ⟨rfl, hhead⟩ := hbreak
        obtain ⟨cs, rfl⟩ := List.head?_eq_some_iff.mp hhead
        have hscan : ∀ r, scanLiteralLines ('\r' :: '\n' :: r) = prepend ['\r', '\n'] (scanLiteralLines r) :=
          fun _ => rfl
        have hlength : cs.length < ('\r' :: '\n' :: cs).length := Nat.lt_succ_of_le (by simp)
        obtain ⟨x, hx, rfl⟩ := prepend_eq_some.mp ((hscan cs).symm.trans h)
        exact (ih _ hlength hx rfl).front ['\r', '\n'] fun r _ t hr => by simp_all [prepend]
      · have hscan : ∀ r, Alike cs r → scanLiteralLines (c :: r) = _ := fun r hr =>
          scanLiteralLines_char (fun h => hclose (h.of_alike hr)) (hr.head? ▸ hbreak)
        rw [hscan cs rfl] at h
        split at h
        · cases h
        · obtain ⟨x, hx, rfl⟩ := prepend_eq_some.mp h
          exact (ih _ (by simp) hx rfl).front [c] fun r hr t hread => by simp_all [prepend]

lemma ReadsLines.dropFirstBreak {scan : List Char → Option (List Char × List Char)} {quote : Char}
    {cs x t : List Char} (h : ReadsLines scan quote (dropFirstBreak cs) x t) :
    ReadsLines (fun cs => scan (Toml.dropFirstBreak cs)) quote cs x t := by
  cases hbreak : afterBreak? cs with
  | some r =>
    have hr : Toml.dropFirstBreak cs = r := by rw [Toml.dropFirstBreak, hbreak, Option.getD_some]
    rw [hr] at h
    rcases afterBreak?_eq_some.mp hbreak with rfl | rfl
    · exact h.front ['\n'] fun _ _ _ hr => hr
    · exact h.front ['\r', '\n'] fun _ _ _ hr => hr
  | none =>
    have hcs : Toml.dropFirstBreak cs = cs := by rw [Toml.dropFirstBreak, hbreak, Option.getD_none]
    rw [hcs] at h
    obtain ⟨pre, rfl, hpre⟩ := h
    refine ⟨pre, rfl, fun t' ht => ?_⟩
    have hbreak' : afterBreak? (pre ++ quote :: quote :: quote :: t') = none := by
      rw [← Option.not_isSome_iff_eq_none, ← (ht.append' pre).isSome_afterBreak?, hbreak]
      decide
    have hsame : Toml.dropFirstBreak (pre ++ quote :: quote :: quote :: t') =
      pre ++ quote :: quote :: quote :: t' := by
      rw [Toml.dropFirstBreak, hbreak', Option.getD_none]
    exact (congrArg scan hsame).trans (hpre t' ht)

end DiscordBot.Toml
