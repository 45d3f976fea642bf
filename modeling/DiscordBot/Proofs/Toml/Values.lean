import DiscordBot.Proofs.Toml.Scanning

/-! What is read of a value, whatever stands inside its brackets, does not depend on what follows it. -/

namespace DiscordBot.Toml

variable {fuel depth : Nat} {cs t : List Char} {v : Value} {vs : List Value} {ms ms' : Members}

def scanMember (fuel depth : Nat) (cs : List Char) : Option ((List String × Value) × List Char) := do
  let (keys, r) ← scanKeys cs.length cs
  match ← skipSpace false r with
  | '=' :: r =>
    let (v, r) ← scanValue fuel depth (← skipSpace false r)
    some ((keys, v), r)
  | _ => none

lemma scanItems_eq_some :
    scanItems (fuel + 1) depth cs = some (vs, t) ↔
      ∃ cs', skipSpace false cs = some cs' ∧
        (cs' = ']' :: t ∧ vs = [] ∨
          cs'.head? ≠ some ']' ∧ ∃ v r, scanValue fuel depth cs' = some (v, r) ∧
            (skipSpace false r = some (']' :: t) ∧ vs = [v] ∨
              ∃ r' vs', skipSpace false r = some (',' :: r') ∧ scanItems fuel depth r' = some (vs', t) ∧
                vs = v :: vs')) := by
  constructor
  · intro h
    rw [scanItems] at h
    obtain ⟨cs', hskip, h⟩ := Option.bind_eq_some_iff.mp h
    refine ⟨cs', hskip, ?_⟩
    split at h
    · cases h
      exact .inl ⟨rfl, rfl⟩
    · rename_i hclose
      refine .inr ⟨fun h => ?_, ?_⟩
      · obtain ⟨r, hr⟩ := List.head?_eq_some_iff.mp h
        exact hclose r hr
      obtain ⟨⟨v, r⟩, hv, h⟩ := Option.bind_eq_some_iff.mp h
      obtain ⟨r', hskip', h⟩ := Option.bind_eq_some_iff.mp h
      refine ⟨v, r, hv, ?_⟩
      split at h
      · obtain ⟨⟨vs', r⟩, hvs, h⟩ := Option.bind_eq_some_iff.mp h
        cases h
        exact .inr ⟨_, vs', hskip', hvs, rfl⟩
      · cases h
        exact .inl ⟨hskip', rfl⟩
      · cases h
  · rintro ⟨cs', hskip, hcs⟩
    rw [scanItems]
    refine Option.bind_eq_some_iff.mpr ⟨cs', hskip, ?_⟩
    rcases hcs with ⟨rfl, rfl⟩ | ⟨hclose, v, r, hv, hr⟩
    · rfl
    split
    · exact (hclose rfl).elim
    refine Option.bind_eq_some_iff.mpr ⟨(v, r), hv, ?_⟩
    rcases hr with ⟨hskip', rfl⟩ | ⟨r', vs', hskip', hvs, rfl⟩
    · exact Option.bind_eq_some_iff.mpr ⟨_, hskip', rfl⟩
    · exact Option.bind_eq_some_iff.mpr ⟨_, hskip', Option.bind_eq_some_iff.mpr ⟨_, hvs, rfl⟩⟩

lemma scanMember_eq_some {keys : List String} :
    scanMember fuel depth cs = some ((keys, v), t) ↔
      ∃ r r' r'', scanKeys cs.length cs = some (keys, r) ∧ skipSpace false r = some ('=' :: r') ∧
        skipSpace false r' = some r'' ∧ scanValue fuel depth r'' = some (v, t) := by
  constructor
  · intro h
    obtain ⟨⟨keys, r⟩, hkeys, h⟩ := Option.bind_eq_some_iff.mp h
    obtain ⟨r', hskip, h⟩ := Option.bind_eq_some_iff.mp h
    split at h
    · obtain ⟨r'', hskip', h⟩ := Option.bind_eq_some_iff.mp h
      obtain ⟨⟨v, r⟩, hv, h⟩ := Option.bind_eq_some_iff.mp h
      cases h
      exact ⟨_, _, r'', hkeys, hskip, hskip', hv⟩
    · cases h
  · rintro ⟨r, r', r'', hkeys, hskip, hskip', hv⟩
    simp [scanMember, hkeys, hskip, hskip', hv]

lemma scanMembers_eq_some :
    scanMembers (fuel + 1) depth ms cs = some (ms', t) ↔
      ∃ cs', skipSpace false cs = some cs' ∧
        (cs' = '\x7d' :: t ∧ ms' = ms ∨
          cs'.head? ≠ some '\x7d' ∧ ∃ member r extended, scanMember fuel depth cs' = some (member, r) ∧
            Members.addDotted member.2 member.1 ms = some extended ∧
              (skipSpace false r = some ('\x7d' :: t) ∧ ms' = extended ∨
                ∃ r', skipSpace false r = some (',' :: r') ∧
                  scanMembers fuel depth extended r' = some (ms', t))) := by
  constructor
  · intro h
    rw [scanMembers] at h
    obtain ⟨cs', hskip, h⟩ := Option.bind_eq_some_iff.mp h
    refine ⟨cs', hskip, ?_⟩
    split at h
    · cases h
      exact .inl ⟨rfl, rfl⟩
    · rename_i hclose
      refine .inr ⟨fun h => ?_, ?_⟩
      · obtain ⟨r, hr⟩ := List.head?_eq_some_iff.mp h
        exact hclose r hr
      obtain ⟨⟨keys, r⟩, hkeys, h⟩ := Option.bind_eq_some_iff.mp h
      obtain ⟨r', hskip', h⟩ := Option.bind_eq_some_iff.mp h
      split at h
      · obtain ⟨r'', hskip'', h⟩ := Option.bind_eq_some_iff.mp h
        obtain ⟨⟨v, r⟩, hv, h⟩ := Option.bind_eq_some_iff.mp h
        obtain ⟨extended, hadd, h⟩ := Option.bind_eq_some_iff.mp h
        obtain ⟨r', hskip₃, h⟩ := Option.bind_eq_some_iff.mp h
        refine ⟨(keys, v), r, extended, scanMember_eq_some.mpr ⟨_, _, _, hkeys, hskip', hskip'', hv⟩, hadd, ?_⟩
        split at h
        · exact .inr ⟨_, hskip₃, h⟩
        · cases h
          exact .inl ⟨hskip₃, rfl⟩
        · cases h
      · cases h
  · rintro ⟨cs', hskip, hcs⟩
    rw [scanMembers]
    refine Option.bind_eq_some_iff.mpr ⟨cs', hskip, ?_⟩
    rcases hcs with ⟨rfl, rfl⟩ | ⟨hclose, ⟨keys, v⟩, r, extended, hmember, hadd, hr⟩
    · rfl
    split
    · exact (hclose rfl).elim
    obtain ⟨r₁, r₂, r₃, hkeys, hskip₁, hskip₂, hv⟩ := scanMember_eq_some.mp hmember
    rcases hr with ⟨hskip', rfl⟩ | ⟨r', hskip', hms⟩
    · simp [hkeys, hskip₁, hskip₂, hv, hadd, hskip']
    · simp [hkeys, hskip₁, hskip₂, hv, hadd, hskip', hms]

lemma text_eq_some {x : Option (List Char × List Char)} :
    text x = some (v, t) ↔ ∃ cs, x = some (cs, t) ∧ v = .string (String.ofList cs) := by
  cases x with
  | none => simp [text]
  | some y => simp [text, Prod.ext_iff, eq_comm, and_comm]

lemma takesWithin_of_lines (front : List Char) {scan : List Char → Option (List Char × List Char)}
    {quote : Char}
    {x : List Char} (h : ReadsLines scan quote cs x t)
    (hscan : ∀ fuel r, scanValue (fuel + 1) depth (front ++ r) = text (scan r)) :
    TakesWithin (fun fuel => scanValue fuel depth) (front ++ cs) (.string (String.ofList x)) t := by
  obtain ⟨pre, rfl, hpre⟩ := h
  refine .of_succ (front ++ pre ++ [quote, quote, quote]) (by simp) (by simp) fun fuel t' _ ht => ?_
  simp only [List.append_assoc, List.cons_append, List.nil_append, hscan]
  exact text_eq_some.mpr ⟨x, hpre t' ht, rfl⟩

lemma takesWithin_of_quoted {quote : Char} {scan : List Char → Option (List Char × List Char)}
    {pre x : List Char}
    (hpre : ∀ t', scan (pre ++ quote :: t') = some (x, t'))
    (hscan : ∀ fuel r, (∀ r', r ≠ quote :: quote :: r') → scanValue (fuel + 1) depth (quote :: r) = text (scan r))
    (hopen : ∀ r', pre ++ quote :: t ≠ quote :: quote :: r') :
    TakesWithin (fun fuel => scanValue fuel depth) (quote :: (pre ++ quote :: t)) (.string (String.ofList x)) t := by
  refine .of_succ (quote :: pre ++ [quote]) (by simp) (by simp) fun fuel t' _ ht => ?_
  -- An empty text shows by the one character behind it that it is not three quotes.
  have hopen' : ∀ r', pre ++ quote :: t' ≠ quote :: quote :: r' := fun r' h => by
    have hlike : Alike (quote :: quote :: r') (pre ++ quote :: t) := by
      simpa [h] using (ht.append (pre ++ [quote])).symm
    obtain ⟨r, hr⟩ := hlike.cons₂
    exact hopen r hr
  simp only [List.cons_append, List.append_assoc, List.nil_append, hscan fuel _ hopen', hpre]
  rfl

lemma scanValue_plain {c : Char} (hbasic : c ≠ '"') (hliteral : c ≠ '\'')
    (hopen : c = '[' ∨ c = '\x7b' → depth = 0) (r : List Char) :
    scanValue (fuel + 1) depth (c :: r) = scanPlain (c :: r) := by
  rw [scanValue]
  · exact fun r h => (hbasic (List.cons.inj h).1).elim
  · exact fun r h => (hbasic (List.cons.inj h).1).elim
  · exact fun r h => (hliteral (List.cons.inj h).1).elim
  · exact fun r h => (hliteral (List.cons.inj h).1).elim
  · rintro r d h rfl
    cases hopen (.inl (List.cons.inj h).1)
  · rintro r d h rfl
    cases hopen (.inr (List.cons.inj h).1)

lemma Takes.plain (h : Takes scanPlain cs v t)
    (hscan : ∀ fuel r, cs.head? = r.head? → scanValue (fuel + 1) depth r = scanPlain r) :
    TakesWithin (fun fuel => scanValue fuel depth) cs v t := by
  obtain ⟨pre, hne, rfl, hpre⟩ := h
  refine .of_succ pre hne rfl fun fuel t' _ ht => ?_
  exact (hscan fuel _ (ht.append pre).head?.symm).trans (hpre t' ht)

/-- What can be taken with so many steps: the readers of values call each other, each time with a step less. -/
structure ReadersWithin (fuel : Nat) : Prop where
  value : ∀ {depth cs v t}, scanValue fuel depth cs = some (v, t) →
    TakesWithin (fun fuel => scanValue fuel depth) cs v t
  items : ∀ {depth cs vs t}, scanItems fuel depth cs = some (vs, t) →
    TakesWithin (fun fuel => scanItems fuel depth) cs vs t
  members : ∀ {depth ms cs ms' t}, scanMembers fuel depth ms cs = some (ms', t) →
    TakesWithin (fun fuel => scanMembers fuel depth ms) cs ms' t

lemma scanValue_within (ih : ReadersWithin fuel) (h : scanValue (fuel + 1) depth cs = some (v, t)) :
    TakesWithin (fun fuel => scanValue fuel depth) cs v t := by
  -- The cases are those of the reader: four kinds of text, an array, a table and a plain value.
  unfold scanValue at h
  split at h
  · obtain ⟨x, hx, rfl⟩ := text_eq_some.mp h
    exact takesWithin_of_lines ['"', '"', '"'] (scanBasicLines_eq_some hx).dropFirstBreak fun fuel r => rfl
  · rename_i r hlines
    obtain ⟨x, hx, rfl⟩ := text_eq_some.mp h
    obtain ⟨pre, rfl, hpre⟩ := scanBasic_eq_some hx
    refine takesWithin_of_quoted hpre (fun fuel r hr => ?_) fun r' hr => hlines r' (by rw [hr])
    rw [scanValue]
    exact hr
  · obtain ⟨x, hx, rfl⟩ := text_eq_some.mp h
    exact takesWithin_of_lines ['\'', '\'', '\''] (scanLiteralLines_eq_some hx).dropFirstBreak fun fuel r => rfl
  · rename_i r hlines
    obtain ⟨x, hx, rfl⟩ := text_eq_some.mp h
    obtain ⟨pre, rfl, hpre⟩ := scanLiteral_eq_some hx
    refine takesWithin_of_quoted hpre (fun fuel r hr => ?_) fun r' hr => hlines r' (by rw [hr])
    rw [scanValue]
    exact hr
  · rename_i r depth
    obtain ⟨⟨vs, t⟩, hvs, h⟩ := Option.map_eq_some_iff.mp h
    obtain ⟨rfl, rfl⟩ := Prod.mk.inj h
    obtain ⟨pre, hne, rfl, hpre⟩ := ih.items hvs
    refine .of_succ ('[' :: pre) (by simp) rfl fun fuel t' hfuel ht => ?_
    have hscan := hpre fuel t' (by simpa using hfuel) ht
    simp_all [scanValue]
  · rename_i r depth
    obtain ⟨⟨ms, t⟩, hms, h⟩ := Option.map_eq_some_iff.mp h
    obtain ⟨rfl, rfl⟩ := Prod.mk.inj h
    obtain ⟨pre, hne, rfl, hpre⟩ := ih.members hms
    refine .of_succ ('\x7b' :: pre) (by simp) rfl fun fuel t' hfuel ht => ?_
    have hscan := hpre fuel t' (by simpa using hfuel) ht
    simp_all [scanValue]
  · rename_i _ hbasic _ hliteral hitems hmembers
    refine (scanPlain_eq_some h).plain fun fuel r hr => ?_
    cases r with
    | nil => rfl
    | cons c r =>
      obtain ⟨r', rfl⟩ := List.head?_eq_some_iff.mp hr
      refine scanValue_plain (fun hc => hbasic r' ?_) (fun hc => hliteral r' ?_) (fun hc => ?_) r
      · rw [hc]
      · rw [hc]
      · cases depth with
        | zero => rfl
        | succ depth =>
          rcases hc with rfl | rfl
          · exact (hitems r' depth rfl rfl).elim
          · exact (hmembers r' depth rfl rfl).elim

lemma head?_append_of_ne {pre t t' : List Char} (hne : pre ≠ []) : (pre ++ t').head? = (pre ++ t).head? := by
  cases pre with
  | nil => exact (hne rfl).elim
  | cons c pre => rfl

section Separated

/-! Items and members are read alike: space, one of them, space, and a comma or the closing bracket. -/

variable {α β γ : Type} {take : Nat → List Char → Option (α × List Char)}
  {item : Nat → List Char → Option (β × List Char)} {rest : Nat → List Char → Option (γ × List Char)}
  {x : α} {y : β} {z : γ} {cs' r r' : List Char} {close : Char}

lemma TakesWithin.empty (hlead : Skips (skipSpace false) cs (close :: t))
    (htake : ∀ fuel cs₁ t, skipSpace false cs₁ = some (close :: t) → take (fuel + 1) cs₁ = some (x, t)) :
    TakesWithin take cs x t := by
  obtain ⟨lead, rfl, hlead⟩ := hlead
  refine .of_succ (lead ++ [close]) (by simp) (by simp) fun fuel t' _ ht => ?_
  rw [List.append_assoc]
  exact htake fuel _ t' (hlead _ (ht.append [close]))

lemma TakesWithin.last (hlead : Skips (skipSpace false) cs cs') (hitem : TakesWithin item cs' y r)
    (hgap : Skips (skipSpace false) r (close :: t))
    (htake : ∀ fuel cs₁ cs₂ r t, skipSpace false cs₁ = some cs₂ → cs₂.head? = cs'.head? →
      item fuel cs₂ = some (y, r) → skipSpace false r = some (close :: t) →
        take (fuel + 1) cs₁ = some (x, t)) :
    TakesWithin take cs x t := by
  obtain ⟨lead, rfl, hlead⟩ := hlead
  obtain ⟨pre, hne, rfl, hitem⟩ := hitem
  obtain ⟨gap, rfl, hgap⟩ := hgap
  refine .of_succ (lead ++ pre ++ gap ++ [close]) (by simp) (by simp) fun fuel t' hfuel ht => ?_
  simp only [List.length_append, List.length_singleton] at hfuel
  have hgap' := ht.append (gap ++ [close])
  have hitem' := hgap'.append pre
  simp only [List.append_assoc, List.singleton_append] at hgap' hitem' ⊢
  exact htake fuel _ _ _ t' (hlead _ hitem') (head?_append_of_ne hne) (hitem fuel _ (by omega) hgap')
    (hgap _ (ht.append [close]))

lemma TakesWithin.more (hlead : Skips (skipSpace false) cs cs') (hitem : TakesWithin item cs' y r)
    (hgap : Skips (skipSpace false) r (',' :: r')) (hrest : TakesWithin rest r' z t)
    (htake : ∀ fuel cs₁ cs₂ r r' t, skipSpace false cs₁ = some cs₂ → cs₂.head? = cs'.head? →
      item fuel cs₂ = some (y, r) → skipSpace false r = some (',' :: r') → rest fuel r' = some (z, t) →
      take (fuel + 1) cs₁ = some (x, t)) :
    TakesWithin take cs x t := by
  obtain ⟨lead, rfl, hlead⟩ := hlead
  obtain ⟨pre, hne, rfl, hitem⟩ := hitem
  obtain ⟨gap, rfl, hgap⟩ := hgap
  obtain ⟨others, hne', rfl, hrest⟩ := hrest
  refine .of_succ (lead ++ pre ++ gap ++ ',' :: others) (by simp) (by simp) fun fuel t' hfuel ht => ?_
  simp only [List.length_append, List.length_cons] at hfuel
  have hgap' := ht.append (gap ++ ',' :: others)
  have hitem' := hgap'.append pre
  simp only [List.append_assoc, List.cons_append] at hgap' hitem' ⊢
  exact htake fuel _ _ _ _ t' (hlead _ hitem') (head?_append_of_ne hne) (hitem fuel _ (by omega) hgap')
    (hgap _ (ht.append (',' :: others))) (hrest fuel t' (by omega) ht)

end Separated

lemma scanItems_within (ih : ReadersWithin fuel) (h : scanItems (fuel + 1) depth cs = some (vs, t)) :
    TakesWithin (fun fuel => scanItems fuel depth) cs vs t := by
  obtain ⟨cs', hlead, hcs⟩ := scanItems_eq_some.mp h
  have hskips := skipSpace_eq_some hlead
  rcases hcs with ⟨rfl, rfl⟩ | ⟨hclose, v, r, hv, ⟨hgap, rfl⟩ | ⟨r', vs, hgap, hvs, rfl⟩⟩
  · exact .empty hskips fun _ _ _ hlead => scanItems_eq_some.mpr ⟨_, hlead, .inl ⟨rfl, rfl⟩⟩
  · refine .last hskips (ih.value hv) (skipSpace_eq_some hgap) fun fuel _ cs₂ r _ hlead hhead hv hgap => ?_
    exact scanItems_eq_some.mpr ⟨cs₂, hlead, .inr ⟨hhead ▸ hclose, v, r, hv, .inl ⟨hgap, rfl⟩⟩⟩
  · refine .more hskips (ih.value hv) (skipSpace_eq_some hgap) (ih.items hvs)
      fun fuel _ cs₂ r r' _ hlead hhead hv hgap hvs => ?_
    exact scanItems_eq_some.mpr ⟨cs₂, hlead, .inr ⟨hhead ▸ hclose, v, r, hv, .inr ⟨r', vs, hgap, hvs, rfl⟩⟩⟩

lemma scanMember_within (ih : ReadersWithin fuel) {member : List String × Value}
    (h : scanMember fuel depth cs = some (member, t)) :
    TakesWithin (fun fuel => scanMember fuel depth) cs member t := by
  obtain ⟨keys, v⟩ := member
  obtain ⟨r, r', r'', hkeys, hskip, hskip', hv⟩ := scanMember_eq_some.mp h
  obtain ⟨name, hne, rfl, hname⟩ := scanKeys_eq_some hkeys
  obtain ⟨gap, rfl, hgap⟩ := skipSpace_eq_some hskip
  obtain ⟨gap', rfl, hgap'⟩ := skipSpace_eq_some hskip'
  obtain ⟨item, hne', rfl, hitem⟩ := ih.value hv
  refine ⟨name ++ gap ++ '=' :: gap' ++ item, by simp, by simp, fun fuel t' hfuel ht => ?_⟩
  simp only [List.length_append, List.length_cons] at hfuel
  have hafter := ht.append ('=' :: gap' ++ item)
  have hbefore := hafter.append gap
  simp only [List.append_assoc, List.cons_append] at hafter hbefore ⊢
  exact scanMember_eq_some.mpr ⟨_, _, _, hname _ _ (by simp) hbefore, hgap _ hafter, hgap' _ (ht.append item),
    hitem fuel t' (by omega) ht⟩

lemma scanMembers_within (ih : ReadersWithin fuel) (h : scanMembers (fuel + 1) depth ms cs = some (ms', t)) :
    TakesWithin (fun fuel => scanMembers fuel depth ms) cs ms' t := by
  obtain ⟨cs', hlead, hcs⟩ := scanMembers_eq_some.mp h
  have hskips := skipSpace_eq_some hlead
  rcases hcs with ⟨rfl, rfl⟩ | ⟨hclose, member, r, extended, hmember, hadd, ⟨hgap, rfl⟩ | ⟨r', hgap, hms⟩⟩
  · exact .empty hskips fun _ _ _ hlead => scanMembers_eq_some.mpr ⟨_, hlead, .inl ⟨rfl, rfl⟩⟩
  · refine .last hskips (scanMember_within ih hmember) (skipSpace_eq_some hgap)
      fun fuel _ cs₂ r _ hlead hhead hmember hgap => ?_
    exact scanMembers_eq_some.mpr
      ⟨cs₂, hlead, .inr ⟨hhead ▸ hclose, member, r, ms', hmember, hadd, .inl ⟨hgap, rfl⟩⟩⟩
  · refine .more hskips (scanMember_within ih hmember) (skipSpace_eq_some hgap) (ih.members hms)
      fun fuel _ cs₂ r r' _ hlead hhead hmember hgap hms => ?_
    exact scanMembers_eq_some.mpr
      ⟨cs₂, hlead, .inr ⟨hhead ▸ hclose, member, r, extended, hmember, hadd, .inr ⟨r', hgap, hms⟩⟩⟩

lemma readersWithin (fuel : Nat) : ReadersWithin fuel := by
  induction fuel with
  | zero => exact ⟨nofun, nofun, nofun⟩
  | succ fuel ih => exact ⟨scanValue_within ih, scanItems_within ih, scanMembers_within ih⟩

theorem scanValue_eq_some (h : scanValue fuel depth cs = some (v, t)) :
    TakesWithin (fun fuel => scanValue fuel depth) cs v t :=
  (readersWithin fuel).value h

end DiscordBot.Toml
