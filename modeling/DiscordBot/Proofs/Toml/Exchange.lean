import DiscordBot.Proofs.Toml.Lines
import Mathlib.Data.List.Forall2

/-! Documents that differ in one text. The rules for tables never look into a text, so the tables differ in
it alone. -/

namespace DiscordBot.Toml

def ExchangedAt (key : String) (R : Value → Value → Prop) (ms ms' : Members) : Prop :=
  List.Forall₂ (fun m m' => m'.1 = m.1 ∧ if m.1 = key then R m.2 m'.2 else m'.2 = m.2) ms ms' ∧
    key ∈ ms.map Prod.fst

namespace ExchangedAt

variable {key k : String} {R : Value → Value → Prop} {ms ms' : Members} {v v' : Value}

lemma lookup (h : ExchangedAt key R ms ms') :
    ∃ v v', ms.lookup key = some v ∧ ms'.lookup key = some v' ∧ R v v' := by
  obtain ⟨hall, hmem⟩ := h
  induction hall with
  | nil => cases hmem
  | @cons m m' ms ms' hm hall ih =>
    obtain ⟨name, v⟩ := m
    obtain ⟨name', v'⟩ := m'
    obtain ⟨rfl, hv⟩ : name' = name ∧ _ := hm
    by_cases hkey : name' = key
    · subst hkey
      rw [if_pos rfl] at hv
      exact ⟨v, v', by simp, by simp, hv⟩
    · have hne : (key == name') = false := beq_eq_false_iff_ne.mpr (Ne.symm hkey)
      have hmem : key ∈ ms.map Prod.fst := (List.mem_cons.mp hmem).resolve_left (Ne.symm hkey)
      simpa only [List.lookup_cons, hne] using ih hmem

lemma lookup_of_ne (h : ExchangedAt key R ms ms') (hk : k ≠ key) : ms'.lookup k = ms.lookup k := by
  obtain ⟨hall, -⟩ := h
  induction hall with
  | nil => rfl
  | @cons m m' ms ms' hm hall ih =>
    obtain ⟨name, v⟩ := m
    obtain ⟨name', v'⟩ := m'
    obtain ⟨rfl, hv⟩ : name' = name ∧ _ := hm
    rw [List.lookup_cons, List.lookup_cons, ih]
    by_cases hname : k = name'
    · subst hname
      rw [if_neg hk] at hv
      rw [show v' = v from hv]
    · rw [beq_eq_false_iff_ne.mpr hname]

lemma append (h : ExchangedAt key R ms ms') (hk : k ≠ key) (v : Value) :
    ExchangedAt key R (ms ++ [(k, v)]) (ms' ++ [(k, v)]) := by
  refine ⟨List.rel_append h.1 (.cons ⟨rfl, ?_⟩ .nil), by simp [h.2]⟩
  rw [if_neg hk]

lemma map_fst_replace (k : String) (v : Value) (ms : Members) :
    (ms.replace k v).map Prod.fst = ms.map Prod.fst := by
  rw [Members.replace, List.map_map]
  refine List.map_congr_left fun m _ => ?_
  by_cases hk : m.1 = k <;> simp [hk]

lemma replace (h : ExchangedAt key R ms ms') (hv : if k = key then R v v' else v' = v) :
    ExchangedAt key R (ms.replace k v) (ms'.replace k v') := by
  refine ⟨?_, by rw [map_fst_replace]; exact h.2⟩
  refine List.forall₂_map_left_iff.mpr (List.forall₂_map_right_iff.mpr (h.1.imp fun m m' hm => ?_))
  by_cases hk : m.1 = k
  · simp [hm.1, hk, hv]
  · simp only [hm.1, beq_eq_false_iff_ne.mpr hk]
    exact hm

end ExchangedAt

/-- The same members, but with the text at the end of a path exchanged for another one. -/
def Exchanged (w : String) : List String → Members → Members → Prop
  | [] => fun _ _ => False
  | key :: keys =>
    ExchangedAt key fun v v' =>
      (keys = [] ∧ (∃ x, v = .string x) ∧ v' = .string w) ∨
        ∃ form sub sub', v = .table form sub ∧ v' = .table form sub' ∧ Exchanged w keys sub sub'

variable {w : String} {path : List String} {ms ms' : Members}

inductive Finds (w : String) (path : List String) (ms ms' : Members) (key : String) : Prop
  | same (hlookup : ms'.lookup key = ms.lookup key)
      (hadd : ∀ v, Exchanged w path (ms ++ [(key, v)]) (ms' ++ [(key, v)]))
      (hreplace : ∀ v, Exchanged w path (ms.replace key v) (ms'.replace key v))
  | text (x : String) (hlookup : ms.lookup key = some (.string x)) (hlookup' : ms'.lookup key = some (.string w))
  | inside (keys : List String) (form : TableForm) (sub sub' : Members)
      (hlookup : ms.lookup key = some (.table form sub)) (hlookup' : ms'.lookup key = some (.table form sub'))
      (hsub : Exchanged w keys sub sub')
      (hreplace : ∀ form out out', Exchanged w keys out out' →
        Exchanged w path (ms.replace key (.table form out)) (ms'.replace key (.table form out')))

lemma Exchanged.finds (h : Exchanged w path ms ms') (key : String) : Finds w path ms ms' key := by
  cases path with
  | nil => cases h
  | cons first keys =>
    by_cases hkey : key = first
    · subst hkey
      obtain ⟨v, v', hv, hv', ⟨rfl, ⟨x, rfl⟩, rfl⟩ | ⟨form, sub, sub', rfl, rfl, hsub⟩⟩ := h.lookup
      · exact .text x hv hv'
      · refine .inside keys form sub sub' hv hv' hsub fun form out out' hout => h.replace ?_
        rw [if_pos rfl]
        exact .inr ⟨form, out, out', rfl, rfl, hout⟩
    · exact .same (h.lookup_of_ne hkey) (h.append hkey) fun v => h.replace (by rw [if_neg hkey])

def Overlooks (w : String) (f : Members → Option Members) : Prop :=
  ∀ ⦃path ms ms' out⦄, Exchanged w path ms ms' → f ms = some out →
    ∃ out', f ms' = some out' ∧ Exchanged w path out out'

lemma overlooks_add (key : String) (v : Value) : Overlooks w (Members.add key v) := by
  intro path ms ms' out h hadd
  unfold Members.add at hadd ⊢
  cases h.finds key with
  | same hlookup hnew _ =>
    rw [hlookup]
    split at hadd
    · cases hadd
      exact ⟨_, rfl, hnew v⟩
    · cases hadd
  | text x hlookup _ =>
    rw [hlookup] at hadd
    cases hadd
  | inside _ _ _ _ hlookup _ _ _ =>
    rw [hlookup] at hadd
    cases hadd

lemma overlooks_addDotted (v : Value) (keys : List String) : Overlooks w (Members.addDotted v keys) := by
  intro path ms ms' out h hadd
  induction keys generalizing path ms ms' out with
  | nil => cases hadd
  | cons key keys ih =>
    cases keys with
    | nil => exact overlooks_add key v h hadd
    | cons next keys =>
      rw [Members.addDotted.eq_def] at hadd ⊢
      dsimp only at hadd ⊢
      cases h.finds key with
      | same hlookup hnew hreplace =>
        rw [hlookup]
        split at hadd
        · obtain ⟨sub, hsub, rfl⟩ := Option.map_eq_some_iff.mp hadd
          rw [hsub]
          exact ⟨_, rfl, hnew _⟩
        · split at hadd
          · obtain ⟨sub, hsub, rfl⟩ := Option.map_eq_some_iff.mp hadd
            rw [if_pos ‹_›, hsub]
            exact ⟨_, rfl, hreplace _⟩
          · cases hadd
        · cases hadd
      | text x hlookup _ =>
        rw [hlookup] at hadd
        cases hadd
      | inside path form sub sub' hlookup hlookup' hsub hreplace =>
        rw [hlookup] at hadd
        rw [hlookup']
        dsimp only at hadd ⊢
        split at hadd
        · obtain ⟨out, hout, rfl⟩ := Option.map_eq_some_iff.mp hadd
          obtain ⟨out', hout', hrel⟩ := ih hsub hout
          rw [if_pos ‹_›, hout']
          exact ⟨_, rfl, hreplace form out out' hrel⟩
        · cases hadd

lemma overlooks_update {f : Members → Option Members} (hf : Overlooks w f) (keys : List String) :
    Overlooks w (Members.update f keys) := by
  intro path ms ms' out h hupdate
  induction keys generalizing path ms ms' out with
  | nil => exact hf h hupdate
  | cons key keys ih =>
    rw [Members.update] at hupdate ⊢
    cases h.finds key with
    | same hlookup hnew hreplace =>
      rw [hlookup]
      split at hupdate
      · obtain ⟨sub, hsub, rfl⟩ := Option.map_eq_some_iff.mp hupdate
        rw [hsub]
        exact ⟨_, rfl, hnew _⟩
      · cases hupdate
      · obtain ⟨sub, hsub, rfl⟩ := Option.map_eq_some_iff.mp hupdate
        rw [hsub]
        exact ⟨_, rfl, hreplace _⟩
      · obtain ⟨sub, hsub, rfl⟩ := Option.map_eq_some_iff.mp hupdate
        rw [hsub]
        exact ⟨_, rfl, hreplace _⟩
      · cases hupdate
    | text x hlookup _ =>
      rw [hlookup] at hupdate
      cases hupdate
    | inside path form sub sub' hlookup hlookup' hsub hreplace =>
      rw [hlookup] at hupdate
      rw [hlookup']
      cases form with
      | inline => cases hupdate
      | header | path | dotted =>
        obtain ⟨out, hout, rfl⟩ := Option.map_eq_some_iff.mp hupdate
        obtain ⟨out', hout', hrel⟩ := ih hsub hout
        exact ⟨_, Option.map_eq_some_iff.mpr ⟨out', hout', rfl⟩, hreplace _ out out' hrel⟩

lemma overlooks_openTable (key : String) : Overlooks w (Members.openTable key) := by
  intro path ms ms' out h hopen
  unfold Members.openTable at hopen ⊢
  cases h.finds key with
  | same hlookup hnew hreplace =>
    rw [hlookup]
    split at hopen
    · cases hopen
      exact ⟨_, rfl, hnew _⟩
    · cases hopen
      exact ⟨_, rfl, hreplace _⟩
    · cases hopen
  | text x hlookup _ =>
    rw [hlookup] at hopen
    cases hopen
  | inside path form sub sub' hlookup hlookup' hsub hreplace =>
    rw [hlookup] at hopen
    rw [hlookup']
    cases form with
    | path =>
      cases hopen
      exact ⟨_, rfl, hreplace .header sub sub' hsub⟩
    | inline | header | dotted => cases hopen

lemma overlooks_openElement (key : String) : Overlooks w (Members.openElement key) := by
  intro path ms ms' out h hopen
  unfold Members.openElement at hopen ⊢
  cases h.finds key with
  | same hlookup hnew hreplace =>
    rw [hlookup]
    split at hopen
    · cases hopen
      exact ⟨_, rfl, hnew _⟩
    · cases hopen
      exact ⟨_, rfl, hreplace _⟩
    · cases hopen
  | text _ hlookup _ | inside _ _ _ _ hlookup _ _ _ =>
    rw [hlookup] at hopen
    cases hopen

lemma overlooks_atHeader {f : String → Members → Option Members} (hf : ∀ key, Overlooks w (f key))
    (keys : List String) : Overlooks w (Members.atHeader f keys) := by
  intro path ms ms' out h hat
  unfold Members.atHeader at hat ⊢
  split at hat
  · cases hat
  · exact overlooks_update (hf _) _ h hat

lemma Overlooks.underHeader {f : Members → Option Members} {header next : List String} {out : Members}
    (hf : Overlooks w f) (h : Exchanged w path ms ms') (hout : (f ms).map (header, ·) = some (next, out)) :
    ∃ out', (f ms').map (header, ·) = some (next, out') ∧ Exchanged w path out out' := by
  obtain ⟨out, hf', heq⟩ := Option.map_eq_some_iff.mp hout
  obtain ⟨rfl, rfl⟩ := Prod.mk.inj heq
  obtain ⟨out', hout', hrel⟩ := hf h hf'
  exact ⟨out', Option.map_eq_some_iff.mpr ⟨out', hout', rfl⟩, hrel⟩

theorem Exchanged.enter {line : Line} {header header' : List String} {out : Members}
    (h : Exchanged w path ms ms') (henter : line.enter (header, ms) = some (header', out)) :
    ∃ out', line.enter (header, ms') = some (header', out') ∧ Exchanged w path out out' := by
  cases line with
  | element keys => exact (overlooks_atHeader overlooks_openElement keys).underHeader h henter
  | table keys => exact (overlooks_atHeader overlooks_openTable keys).underHeader h henter
  | pair keys v => exact (overlooks_update (overlooks_addDotted v keys) header).underHeader h henter

theorem Exchanged.enterAll {lines : List Line} {header header' : List String} {out : Members}
    (h : Exchanged w path ms ms') (henter : enterAll lines (header, ms) = some (header', out)) :
    ∃ out', Toml.enterAll lines (header, ms') = some (header', out') ∧ Exchanged w path out out' := by
  induction lines generalizing header ms ms' with
  | nil =>
    cases henter
    exact ⟨ms', rfl, h⟩
  | cons line lines ih =>
    obtain ⟨⟨next, mid⟩, hline, hrest⟩ := Option.bind_eq_some_iff.mp henter
    obtain ⟨mid', hline', hmid⟩ := h.enter hline
    obtain ⟨out', hrest', hout⟩ := ih hmid hrest
    exact ⟨out', Option.bind_eq_some_iff.mpr ⟨_, hline', hrest'⟩, hout⟩

section Section

variable {key name x : String} {sub : Members}

def InTable (key : String) (lines : List Line) : Prop :=
  ∃ earlier pairs, lines = earlier ++ .table [key] :: pairs ∧ ∀ line ∈ pairs, ∃ keys v, line = .pair keys v

lemma lookup_replace {v v' : Value} (h : ms.lookup key = some v) :
    (ms.replace key v').lookup key = some v' := by
  induction ms with
  | nil => cases h
  | cons m ms ih =>
    obtain ⟨name, u⟩ := m
    by_cases hname : name = key
    · subst hname
      simp [Members.replace]
    · have hne : (key == name) = false := beq_eq_false_iff_ne.mpr (Ne.symm hname)
      rw [List.lookup_cons, hne] at h
      simpa [Members.replace, List.lookup_cons, hne, hname] using ih h

lemma lookup_append_self {v : Value} (h : ms.lookup key = none) : (ms ++ [(key, v)]).lookup key = some v := by
  simp [List.lookup_append, h]

lemma lookup_of_enter_table {s : State} {header : List String}
    (h : Line.enter (.table [key]) s = some (header, ms)) :
    header = [key] ∧ ∃ sub, ms.lookup key = some (.table .header sub) := by
  obtain ⟨ms, hopen, heq⟩ := Option.map_eq_some_iff.mp h
  obtain ⟨rfl, rfl⟩ := Prod.mk.inj heq
  refine ⟨rfl, ?_⟩
  change Members.openTable key s.2 = some ms at hopen
  unfold Members.openTable at hopen
  split at hopen
  · cases hopen
    exact ⟨[], lookup_append_self ‹_›⟩
  · cases hopen
    exact ⟨_, lookup_replace ‹_›⟩
  · cases hopen

lemma update_of_lookup (f : Members → Option Members) (h : ms.lookup key = some (.table .header sub)) :
    Members.update f [key] ms = (f sub).map fun sub => ms.replace key (.table .header sub) := by
  rw [Members.update, h]
  rfl

lemma lookup_of_enter_pair {keys header : List String} {v : Value} {out : Members}
    (hlookup : ms.lookup key = some (.table .header sub))
    (h : Line.enter (.pair keys v) ([key], ms) = some (header, out)) :
    header = [key] ∧ ∃ sub, out.lookup key = some (.table .header sub) := by
  obtain ⟨out, hupdate, heq⟩ := Option.map_eq_some_iff.mp h
  obtain ⟨rfl, rfl⟩ := Prod.mk.inj heq
  rw [update_of_lookup _ hlookup] at hupdate
  obtain ⟨sub, -, rfl⟩ := Option.map_eq_some_iff.mp hupdate
  exact ⟨rfl, sub, lookup_replace hlookup⟩

lemma lookup_of_enterAll_pairs {pairs : List Line} {header : List String} {out : Members}
    (hpairs : ∀ line ∈ pairs, ∃ keys v, line = .pair keys v)
      (hlookup : ms.lookup key = some (.table .header sub))
    (h : enterAll pairs ([key], ms) = some (header, out)) :
    header = [key] ∧ ∃ sub, out.lookup key = some (.table .header sub) := by
  induction pairs generalizing ms sub with
  | nil =>
    cases h
    exact ⟨rfl, sub, hlookup⟩
  | cons line pairs ih =>
    obtain ⟨⟨next, mid⟩, hline, hrest⟩ := Option.bind_eq_some_iff.mp h
    obtain ⟨keys, v, rfl⟩ := hpairs line List.mem_cons_self
    obtain ⟨rfl, sub, hmid⟩ := lookup_of_enter_pair hlookup hline
    exact ih (fun line hline => hpairs line (List.mem_cons_of_mem _ hline)) hmid hrest

lemma enterAll_append {lines lines' : List Line} {s : State} :
    enterAll (lines ++ lines') s = (enterAll lines s).bind (enterAll lines') :=
  List.foldlM_append

theorem InTable.lookup {lines : List Line} {s : State} {header : List String} (h : InTable key lines)
    (henter : enterAll lines s = some (header, ms)) :
    header = [key] ∧ ∃ sub, ms.lookup key = some (.table .header sub) := by
  obtain ⟨earlier, pairs, rfl, hpairs⟩ := h
  rw [enterAll_append] at henter
  obtain ⟨s, -, henter⟩ := Option.bind_eq_some_iff.mp henter
  obtain ⟨⟨next, mid⟩, htable, henter⟩ := Option.bind_eq_some_iff.mp henter
  obtain ⟨rfl, sub, hlookup⟩ := lookup_of_enter_table htable
  exact lookup_of_enterAll_pairs hpairs hlookup henter

lemma exchangedAt_append {R : Value → Value → Prop} {v v' : Value} (hfree : ms.lookup key = none)
    (hv : R v v') :
    ExchangedAt key R (ms ++ [(key, v)]) (ms ++ [(key, v')]) := by
  have hsame : ∀ m ∈ ms, m.1 = m.1 ∧ if m.1 = key then R m.2 m.2 else m.2 = m.2 := fun m hm => by
    have hne := bne_iff_ne.mp (List.lookup_eq_none_iff.mp hfree m hm)
    rw [if_neg hne.symm]
    exact ⟨rfl, rfl⟩
  refine ⟨List.rel_append (List.forall₂_same.mpr hsame) (.cons ⟨rfl, ?_⟩ .nil), by simp⟩
  rw [if_pos rfl]
  exact hv

lemma exchangedAt_replace {R : Value → Value → Prop} {v v' : Value} (hmem : key ∈ ms.map Prod.fst)
    (hv : R v v') :
    ExchangedAt key R (ms.replace key v) (ms.replace key v') := by
  refine ⟨?_, by rwa [ExchangedAt.map_fst_replace]⟩
  refine List.forall₂_map_left_iff.mpr (List.forall₂_map_right_iff.mpr (List.forall₂_same.mpr fun m _ => ?_))
  by_cases hm : m.1 = key <;> simp [hm, hv]

theorem Exchanged.of_pair {header : List String} {out : Members} (w : String)
    (hlookup : ms.lookup key = some (.table .header sub))
    (h : Line.enter (.pair [name] (.string x)) ([key], ms) = some (header, out)) :
    ∃ out', Line.enter (.pair [name] (.string w)) ([key], ms) = some (header, out') ∧
      Exchanged w [key, name] out out' := by
  obtain ⟨out, hupdate, heq⟩ := Option.map_eq_some_iff.mp h
  obtain ⟨rfl, rfl⟩ := Prod.mk.inj heq
  rw [update_of_lookup _ hlookup] at hupdate
  obtain ⟨sub', hadd, rfl⟩ := Option.map_eq_some_iff.mp hupdate
  change sub.add name (.string x) = some sub' at hadd
  unfold Members.add at hadd
  split at hadd
  · rename_i hfree
    cases hadd
    refine ⟨ms.replace key (.table .header (sub ++ [(name, .string w)])), ?_, ?_⟩
    · refine Option.map_eq_some_iff.mpr ⟨_, ?_, rfl⟩
      rw [update_of_lookup _ hlookup]
      refine Option.map_eq_some_iff.mpr ⟨_, ?_, rfl⟩
      change sub.add name (.string w) = _
      rw [Members.add, hfree]
    · have hmem : key ∈ ms.map Prod.fst := by
        obtain ⟨l, r, rfl, -⟩ := List.lookup_eq_some_iff.mp hlookup
        simp
      exact exchangedAt_replace hmem (.inr ⟨_, _, _, rfl, rfl, exchangedAt_append hfree (.inl ⟨rfl, ⟨x, rfl⟩, rfl⟩)⟩)
  · cases hadd

theorem exchanged_of_inTable {earlier later : List Line} {s : State} {header : List String} (w : String)
    (hin : InTable key earlier) (h : enterAll (earlier ++ .pair [name] (.string x) :: later) s = some (header, ms)) :
    ∃ ms', enterAll (earlier ++ .pair [name] (.string w) :: later) s = some (header, ms') ∧
      Exchanged w [key, name] ms ms' := by
  rw [enterAll_append] at h ⊢
  obtain ⟨⟨next, before⟩, hearlier, h⟩ := Option.bind_eq_some_iff.mp h
  obtain ⟨⟨next', mid⟩, hline, hlater⟩ := Option.bind_eq_some_iff.mp h
  obtain ⟨rfl, sub, hlookup⟩ := hin.lookup hearlier
  obtain ⟨mid', hline', hmid⟩ := Exchanged.of_pair w hlookup hline
  obtain ⟨ms', hlater', hms⟩ := hmid.enterAll hlater
  refine ⟨ms', Option.bind_eq_some_iff.mpr ⟨_, hearlier, ?_⟩, hms⟩
  exact Option.bind_eq_some_iff.mpr ⟨_, hline', hlater'⟩

end Section

end DiscordBot.Toml
