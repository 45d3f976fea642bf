import DiscordBot.Proofs.Toml.Values

/-! A document as its lines. What a line says is read from the line alone, and only then put into the tables. -/

namespace DiscordBot.Toml

inductive Line where
  | element (keys : List String)
  | table (keys : List String)
  | pair (keys : List String) (v : Value)

abbrev State := List String × Members

def Line.enter : Line → State → Option State
  | element keys, s => (s.2.atHeader Members.openElement keys).map (keys, ·)
  | table keys, s => (s.2.atHeader Members.openTable keys).map (keys, ·)
  | pair keys v, s => (s.2.update (Members.addDotted v keys) s.1).map (s.1, ·)

def scanBareLine : List Char → Option (Line × List Char)
  | '[' :: '[' :: r => do
    let (keys, r) ← scanKeys r.length r
    match r with
    | ']' :: ']' :: r => some (.element keys, r)
    | _ => none
  | '[' :: r => do
    let (keys, r) ← scanKeys r.length r
    match r with
    | ']' :: r => some (.table keys, r)
    | _ => none
  | cs => do
    let (keys, r) ← scanKeys cs.length cs
    match r with
    | '=' :: r => (scanValue r.length greatestDepth (r.dropWhile isBlank)).map fun (v, r) => (.pair keys v, r)
    | _ => none

def scanLine (cs : List Char) : Option (Line × List Char) := do
  let (line, r) ← scanBareLine cs
  (endLine r).map (line, ·)

variable {fuel : Nat} {cs t : List Char} {header : List String} {ms : Members} {line : Line}

lemma scanBareLine_element (r : List Char) :
    scanBareLine ('[' :: '[' :: r) = some (line, t) ↔
      ∃ keys, scanKeys r.length r = some (keys, ']' :: ']' :: t) ∧ line = .element keys := by
  rw [scanBareLine]
  cases scanKeys r.length r with
  | none => simp
  | some y =>
    obtain ⟨keys, r⟩ := y
    simp only [Option.bind_eq_bind, Option.bind_some]
    split <;> simp_all [eq_comm, and_comm]

lemma scanBareLine_table {r : List Char} (hr : r.head? ≠ some '[') :
    scanBareLine ('[' :: r) = some (line, t) ↔
      ∃ keys, scanKeys r.length r = some (keys, ']' :: t) ∧ line = .table keys := by
  rw [scanBareLine]
  · cases scanKeys r.length r with
    | none => simp
    | some y =>
      obtain ⟨keys, r⟩ := y
      simp only [Option.bind_eq_bind, Option.bind_some]
      split <;> simp_all [eq_comm, and_comm]
  · rintro r rfl
    exact hr rfl

lemma scanBareLine_pair (hcs : cs.head? ≠ some '[') :
    scanBareLine cs = some (line, t) ↔
      ∃ keys r v, scanKeys cs.length cs = some (keys, '=' :: r) ∧
        scanValue r.length greatestDepth (r.dropWhile isBlank) = some (v, t) ∧ line = .pair keys v := by
  rw [scanBareLine]
  · cases scanKeys cs.length cs with
    | none => simp
    | some y =>
      obtain ⟨keys, r⟩ := y
      simp only [Option.bind_eq_bind, Option.bind_some]
      split
      · rename_i r
        constructor
        · intro h
          obtain ⟨⟨v, t⟩, hv, h⟩ := Option.map_eq_some_iff.mp h
          cases h
          exact ⟨keys, r, v, rfl, hv, rfl⟩
        · rintro ⟨keys, r, v, h, hv, rfl⟩
          cases h
          rw [hv]
          rfl
      · simp_all
  · rintro r rfl
    exact hcs rfl
  · rintro r rfl
    exact hcs rfl

lemma scanLine_iff :
    scanLine cs = some (line, t) ↔ ∃ r, scanBareLine cs = some (line, r) ∧ endLine r = some t := by
  constructor
  · intro h
    obtain ⟨⟨line, r⟩, hbare, h⟩ := Option.bind_eq_some_iff.mp h
    obtain ⟨t, hend, h⟩ := Option.map_eq_some_iff.mp h
    obtain ⟨rfl, rfl⟩ := Prod.mk.inj h
    exact ⟨r, hbare, hend⟩
  · rintro ⟨r, hbare, hend⟩
    exact Option.bind_eq_some_iff.mpr ⟨_, hbare, Option.map_eq_some_iff.mpr ⟨t, hend, rfl⟩⟩

def ReadsLine (fuel : Nat) (s : State) (cs : List Char) (out : Members) : Prop :=
  ∃ line r s', scanLine cs = some (line, r) ∧ line.enter s = some s' ∧ readLines fuel s'.1 s'.2 r = some out

variable {out : Members}

lemma readLines_step (hne : cs ≠ []) :
    readLines (fuel + 1) header ms cs =
      (scanBareLine cs).bind fun x =>
        (x.1.enter (header, ms)).bind fun s => (endLine x.2).bind fun r => readLines fuel s.1 s.2 r := by
  fun_cases scanBareLine cs with
  | case1 r =>
    rw [readLines]
    cases scanKeys r.length r with
    | none => rfl
    | some y =>
      obtain ⟨keys, r⟩ := y
      simp only [Option.bind_eq_bind, Option.bind_some]
      split
      · simp only [Line.enter, Option.bind_some, Option.bind_map, Function.comp_def]
      · simp
  | case2 r hr =>
    rw [readLines]
    · cases scanKeys r.length r with
      | none => rfl
      | some y =>
        obtain ⟨keys, r⟩ := y
        simp only [Option.bind_eq_bind, Option.bind_some]
        split
        · simp only [Line.enter, Option.bind_some, Option.bind_map, Function.comp_def]
        · simp
    · exact hr
  | case3 _ hopen₂ hopen =>
    rw [readLines]
    · cases scanKeys cs.length cs with
      | none => rfl
      | some y =>
        obtain ⟨keys, r⟩ := y
        simp only [Option.bind_eq_bind, Option.bind_some]
        split
        · simp only [Line.enter, Option.bind_map, Function.comp_def]
        · simp_all
    · exact hne
    · exact hopen₂
    · exact hopen

theorem readLines_succ (hne : cs ≠ []) :
    readLines (fuel + 1) header ms cs = some out ↔ ReadsLine fuel (header, ms) cs out := by
  rw [readLines_step hne, Option.bind_eq_some_iff]
  constructor
  · rintro ⟨⟨line, t⟩, hbare, h⟩
    obtain ⟨s, henter, h⟩ := Option.bind_eq_some_iff.mp h
    obtain ⟨r, hend, h⟩ := Option.bind_eq_some_iff.mp h
    exact ⟨line, r, s, scanLine_iff.mpr ⟨t, hbare, hend⟩, henter, h⟩
  · rintro ⟨line, r, s, hline, henter, h⟩
    obtain ⟨t, hbare, hend⟩ := scanLine_iff.mp hline
    exact ⟨(line, t), hbare, Option.bind_eq_some_iff.mpr
      ⟨s, henter, Option.bind_eq_some_iff.mpr ⟨r, hend, h⟩⟩⟩

lemma scanBareLine_eq_some (h : scanBareLine cs = some (line, t)) : Takes scanBareLine cs line t := by
  by_cases hcs : cs.head? = some '['
  · obtain ⟨r, rfl⟩ := List.head?_eq_some_iff.mp hcs
    by_cases hr : r.head? = some '['
    · obtain ⟨r, rfl⟩ := List.head?_eq_some_iff.mp hr
      obtain ⟨keys, hkeys, rfl⟩ := (scanBareLine_element r).mp h
      obtain ⟨name, hne, rfl, hname⟩ := scanKeys_eq_some hkeys
      refine ⟨'[' :: '[' :: name ++ [']', ']'], by simp, by simp, fun t' ht => ?_⟩
      simp only [List.append_assoc, List.cons_append, List.nil_append]
      exact (scanBareLine_element _).mpr ⟨keys, hname _ _ (by simp) (ht.append [']', ']']), rfl⟩
    · obtain ⟨keys, hkeys, rfl⟩ := (scanBareLine_table hr).mp h
      obtain ⟨name, hne, rfl, hname⟩ := scanKeys_eq_some hkeys
      refine ⟨'[' :: name ++ [']'], by simp, by simp, fun t' ht => ?_⟩
      simp only [List.append_assoc, List.cons_append, List.nil_append]
      exact (scanBareLine_table (head?_append_of_ne hne ▸ hr)).mpr
        ⟨keys, hname _ _ (by simp) (ht.append [']']), rfl⟩
  · obtain ⟨keys, r, v, hkeys, hv, rfl⟩ := (scanBareLine_pair hcs).mp h
    obtain ⟨name, hne, rfl, hname⟩ := scanKeys_eq_some hkeys
    obtain ⟨gap, hr, hgap⟩ := skips_dropWhile isBlank r
    obtain ⟨item, hne', hitem, hread⟩ := scanValue_eq_some hv
    rw [hitem] at hr hgap
    subst hr
    refine ⟨name ++ '=' :: gap ++ item, by simp, by simp, fun t' ht => ?_⟩
    have hafter := ht.append ('=' :: gap ++ item)
    simp only [List.append_assoc, List.cons_append] at hafter ⊢
    refine (scanBareLine_pair (head?_append_of_ne hne ▸ hcs)).mpr
      ⟨keys, _, v, hname _ _ (by simp) hafter, ?_, rfl⟩
    have hblanks := Option.some.inj (hgap _ (ht.append item))
    rw [hblanks]
    exact hread _ t' (by simp; omega) ht

theorem scanLine_eq_some (h : scanLine cs = some (line, t)) : Takes scanLine cs line t := by
  obtain ⟨r, hbare, hend⟩ := scanLine_iff.mp h
  obtain ⟨pre, hne, rfl, hpre⟩ := scanBareLine_eq_some hbare
  obtain ⟨rest, rfl, hrest⟩ := endLine_eq_some hend
  refine ⟨pre ++ rest, by simp [hne], by simp, fun t' ht => ?_⟩
  rw [List.append_assoc]
  exact scanLine_iff.mpr ⟨_, hpre _ (ht.append rest), hrest t' ht⟩

def ReadsTo : List Line → List Char → List Char → Prop
  | [], cs, t => cs = t
  | line :: lines, cs, t => ∃ r, scanLine cs = some (line, r) ∧ ReadsTo lines r t

lemma readsTo_append {lines lines' : List Line} :
    ReadsTo (lines ++ lines') cs t ↔ ∃ r, ReadsTo lines cs r ∧ ReadsTo lines' r t := by
  induction lines generalizing cs with
  | nil => simp [ReadsTo]
  | cons line lines ih => simp only [List.cons_append, ReadsTo, ih]; tauto

lemma ReadsTo.split {lines all : List Line} (h : ReadsTo lines cs t) (hall : ReadsTo all cs []) :
    ∃ rest, all = lines ++ rest ∧ ReadsTo rest t [] := by
  induction lines generalizing cs all with
  | nil => exact ⟨all, rfl, (show cs = t from h) ▸ hall⟩
  | cons line lines ih =>
    obtain ⟨r, hline, hlines⟩ := h
    cases all with
    | nil =>
      obtain rfl : cs = [] := hall
      cases hline
    | cons line' all =>
      obtain ⟨r', hline', hall⟩ := hall
      obtain ⟨rfl, rfl⟩ := Prod.mk.inj (Option.some.inj (hline.symm.trans hline'))
      obtain ⟨rest, rfl, hrest⟩ := ih hlines hall
      exact ⟨rest, rfl, hrest⟩

theorem ReadsTo.alike {lines : List Line} (h : ReadsTo lines cs t) :
    ∃ pre, cs = pre ++ t ∧ ∀ t', Alike t t' → ReadsTo lines (pre ++ t') t' := by
  induction lines generalizing cs with
  | nil => exact ⟨[], h, fun t' _ => rfl⟩
  | cons line lines ih =>
    obtain ⟨r, hline, hlines⟩ := h
    obtain ⟨rest, rfl, hrest⟩ := ih hlines
    obtain ⟨pre, hne, rfl, hpre⟩ := scanLine_eq_some hline
    refine ⟨pre ++ rest, by simp, fun t' ht => ?_⟩
    rw [List.append_assoc]
    exact ⟨_, hpre _ (ht.append rest), hrest t' ht⟩

def enterAll (lines : List Line) (s : State) : Option State := lines.foldlM (fun s line => line.enter s) s

lemma Takes.length_lt {α : Type} {take : List Char → Option (α × List Char)} {x : α} (h : Takes take cs x t) :
    t.length < cs.length := by
  obtain ⟨pre, hne, rfl, -⟩ := h
  have := List.length_pos_iff.mpr hne
  simp
  omega

lemma readLines_nil :
    readLines fuel header ms [] = some out ↔
      ∃ lines header', ReadsTo lines [] [] ∧ enterAll lines (header, ms) = some (header', out) := by
  have hread : readLines fuel header ms [] = some ms := by cases fuel <;> rfl
  rw [hread]
  constructor
  · rintro h
    cases h
    exact ⟨[], header, rfl, rfl⟩
  · rintro ⟨_ | ⟨line, lines⟩, header', hlines, henter⟩
    · cases henter
      rfl
    · obtain ⟨r, hline, -⟩ := hlines
      exact absurd (scanLine_eq_some hline).length_lt (by simp)

theorem readLines_eq_some (hfuel : cs.length ≤ fuel) :
    readLines fuel header ms cs = some out ↔
      ∃ lines header', ReadsTo lines cs [] ∧ enterAll lines (header, ms) = some (header', out) := by
  induction fuel generalizing cs header ms with
  | zero =>
    obtain rfl := List.length_eq_zero_iff.mp (Nat.le_zero.mp hfuel)
    exact readLines_nil
  | succ fuel ih =>
    by_cases hcs : cs = []
    · subst hcs
      exact readLines_nil
    rw [readLines_succ hcs]
    constructor
    · rintro ⟨line, r, s, hline, hs, h⟩
      have hlength : r.length < cs.length := (scanLine_eq_some hline).length_lt
      obtain ⟨lines, header', hlines, henter⟩ := (ih (Nat.le_of_lt_succ (hlength.trans_le hfuel))).mp h
      refine ⟨line :: lines, header', ⟨r, hline, hlines⟩, ?_⟩
      exact Option.bind_eq_some_iff.mpr ⟨s, hs, henter⟩
    · rintro ⟨_ | ⟨line, lines⟩, header', hlines, henter⟩
      · exact (hcs hlines).elim
      obtain ⟨r, hline, hlines⟩ := hlines
      obtain ⟨s, hs, henter⟩ := Option.bind_eq_some_iff.mp henter
      have hlength : r.length < cs.length := (scanLine_eq_some hline).length_lt
      refine ⟨line, r, s, hline, hs, ?_⟩
      exact (ih (Nat.le_of_lt_succ (hlength.trans_le hfuel))).mpr ⟨lines, header', hlines, henter⟩

def withoutMark : List Char → List Char
  | '\ufeff' :: cs => cs
  | cs => cs

lemma withoutMark_of_ne (h : cs.head? ≠ some '\ufeff') : withoutMark cs = cs := by
  rw [withoutMark]
  rintro r rfl
  exact h rfl

def opening (cs : List Char) : Option (List Char) := skipSpace false (withoutMark cs)

lemma opening_eq_some (h : opening cs = some t) : Skips opening cs t := by
  by_cases hmark : cs.head? = some '\ufeff'
  · obtain ⟨r, rfl⟩ := List.head?_eq_some_iff.mp hmark
    exact (skipSpace_eq_some h).front ['\ufeff'] fun _ _ _ hr => hr
  · rw [opening, withoutMark_of_ne hmark] at h
    obtain ⟨pre, rfl, hpre⟩ := skipSpace_eq_some h
    refine ⟨pre, rfl, fun t' ht => ?_⟩
    rw [opening, withoutMark_of_ne ((ht.append pre).head? ▸ hmark), hpre t' ht]

def Begins (lines : List Line) (cs t : List Char) : Prop := ∃ r, opening cs = some r ∧ ReadsTo lines r t

lemma begins_append {lines lines' : List Line} :
    Begins (lines ++ lines') cs t ↔ ∃ r, Begins lines cs r ∧ ReadsTo lines' r t := by
  simp only [Begins, readsTo_append]
  tauto

lemma Begins.split {lines all : List Line} (h : Begins lines cs t) (hall : Begins all cs []) :
    ∃ rest, all = lines ++ rest ∧ ReadsTo rest t [] := by
  obtain ⟨r, hopening, hlines⟩ := h
  obtain ⟨r', hopening', hall⟩ := hall
  obtain rfl := Option.some.inj (hopening.symm.trans hopening')
  exact hlines.split hall

theorem Begins.alike {lines : List Line} (h : Begins lines cs t) :
    ∃ pre, cs = pre ++ t ∧ ∀ t', Alike t t' → Begins lines (pre ++ t') t' := by
  obtain ⟨r, hopening, hlines⟩ := h
  obtain ⟨rest, rfl, hrest⟩ := hlines.alike
  obtain ⟨pre, rfl, hpre⟩ := opening_eq_some hopening
  refine ⟨pre ++ rest, by simp, fun t' ht => ?_⟩
  rw [List.append_assoc]
  exact ⟨_, hpre _ (ht.append rest), hrest t' ht⟩

theorem parse?_eq_some {s : String} :
    parse? s = some ms ↔
      ∃ lines header, Begins lines s.toList [] ∧ enterAll lines ([], []) = some (header, ms) := by
  have hparse : parse? s = (opening s.toList).bind (readLines (withoutMark s.toList).length [] []) := rfl
  rw [hparse, Option.bind_eq_some_iff]
  constructor
  · rintro ⟨r, hopening, hread⟩
    obtain ⟨pre, hpre, -⟩ := skipSpace_eq_some hopening
    obtain ⟨lines, header, hlines, henter⟩ := (readLines_eq_some (by simp [hpre])).mp hread
    exact ⟨lines, header, ⟨r, hopening, hlines⟩, henter⟩
  · rintro ⟨lines, header, ⟨r, hopening, hlines⟩, henter⟩
    obtain ⟨pre, hpre, -⟩ := skipSpace_eq_some hopening
    exact ⟨r, hopening, (readLines_eq_some (by simp [hpre])).mpr ⟨lines, header, hlines, henter⟩⟩

end DiscordBot.Toml
