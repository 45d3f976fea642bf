import DiscordBot.Proofs.Registry.Rules

/-! What a query finds depends on the commands that are registered, and not on the order in which they
were. -/

namespace DiscordBot

def RegisteredCommand.Answers (c : RegisteredCommand) (q : CommandKey) : Prop :=
  c.app.name = q.name ∧ c.app.guildId = q.guildId ∧ c.app.kind = q.kind ∧
    c.group.map (·.name) = q.group ∧ c.subgroup.map (·.name) = q.subgroup

lemma RegisteredCommand.key_eq_query_iff {c : RegisteredCommand} {q : CommandKey} :
    c.key = q ↔ c.Answers q := by
  cases q
  simp [key, Answers]

lemma RegisteredCommand.Collides.symm {a b : RegisteredCommand} (h : a.Collides b) : b.Collides a :=
  key_eq_iff.mp (key_eq_iff.mpr h).symm

def Declaration.Apart (d e : Declaration) : Prop :=
  ∀ a b, d.check = .ok a → e.check = .ok b → ¬a.Collides b

lemma Declaration.Apart.symm {d e : Declaration} (h : d.Apart e) : e.Apart d :=
  fun a b ha hb hab => h b a hb ha hab.symm

lemma Declaration.apart_of_key_ne {d e : Declaration}
    (h : d.check.toOption.map RegisteredCommand.key ≠ e.check.toOption.map RegisteredCommand.key) :
    d.Apart e := by
  intro a b ha hb hab
  rw [ha, hb] at h
  exact h (congrArg some (RegisteredCommand.key_eq_iff.mpr hab))

namespace Registry

def Sole (commands : List RegisteredCommand) (q : CommandKey) (c : RegisteredCommand) : Prop :=
  c.Answers q ∧ ∃ others, commands.Perm (c :: others) ∧ ∀ o ∈ others, ¬o.Answers q

/-- What a query finds among commands in whatever order: the one that answers it, else the one global
command of that name if it is asked for inside a guild, else nothing. -/
inductive Finds (commands : List RegisteredCommand) (q : CommandKey) : Option RegisteredCommand → Prop
  | own {c : RegisteredCommand} : Sole commands q c → Finds commands q (some c)
  | global {c : RegisteredCommand} : (∀ o ∈ commands, ¬o.Answers q) → q.guildId ≠ none →
      Sole commands { q with guildId := none } c → Finds commands q (some c)
  | nothing : (∀ o ∈ commands, ¬o.Answers q) →
      (q.guildId ≠ none → ∀ o ∈ commands, ¬o.Answers { q with guildId := none }) →
      Finds commands q none

variable {commands commands' : List RegisteredCommand} {q : CommandKey} {c : RegisteredCommand}
  {found : Option RegisteredCommand} {r r' : Registry} {ds es : List Declaration}

lemma Sole.perm (h : Sole commands q c) (hperm : commands.Perm commands') : Sole commands' q c := by
  obtain ⟨hanswers, others, hothers, hnone⟩ := h
  exact ⟨hanswers, others, hperm.symm.trans hothers, hnone⟩

lemma Finds.perm (h : Finds commands q found) (hperm : commands.Perm commands') :
    Finds commands' q found := by
  have hnone : ∀ {q : CommandKey}, (∀ o ∈ commands, ¬o.Answers q) → ∀ o ∈ commands', ¬o.Answers q :=
    fun h o ho => h o (hperm.mem_iff.mpr ho)
  cases h with
  | own hsole => exact .own (hsole.perm hperm)
  | global hfree hguild hsole => exact .global (hnone hfree) hguild (hsole.perm hperm)
  | nothing hfree hglobal => exact .nothing (hnone hfree) fun hguild => hnone (hglobal hguild)

lemma lookup_eq_none_iff : r.lookup q = none ↔ ∀ o ∈ r.commands, ¬o.Answers q := by
  simp [lookup, ← RegisteredCommand.key_eq_query_iff]

lemma Lawful.lookup_eq_some_iff (h : r.Lawful) : r.lookup q = some c ↔ Sole r.commands q c := by
  constructor
  · intro hfound
    have hanswers : c.Answers q :=
      RegisteredCommand.key_eq_query_iff.mp (by simpa using List.find?_some hfound)
    obtain ⟨before, after, hcommands⟩ := List.append_of_mem (List.mem_of_find?_eq_some hfound)
    have hperm : r.commands.Perm (c :: (before ++ after)) := hcommands ▸ List.perm_middle
    refine ⟨hanswers, before ++ after, hperm, fun o ho hsame => ?_⟩
    have hapart := (hperm.pairwise_iff fun hab hba => hab hba.symm).mp h.apart
    refine List.rel_of_pairwise_cons hapart ho (RegisteredCommand.key_eq_iff.mp ?_)
    rw [RegisteredCommand.key_eq_query_iff.mpr hanswers, RegisteredCommand.key_eq_query_iff.mpr hsame]
  · rintro ⟨hanswers, others, hperm, hnone⟩
    have hmem : c ∈ r.commands := hperm.mem_iff.mpr List.mem_cons_self
    cases hfound : r.lookup q with
    | none => exact absurd hanswers (lookup_eq_none_iff.mp hfound c hmem)
    | some d =>
      have hd : d.Answers q := RegisteredCommand.key_eq_query_iff.mp (by simpa using List.find?_some hfound)
      rcases List.mem_cons.mp (hperm.mem_iff.mp (List.mem_of_find?_eq_some hfound)) with rfl | hother
      · rfl
      · exact absurd hd (hnone d hother)

lemma Lawful.find_eq_iff (h : r.Lawful) : r.find q = found ↔ Finds r.commands q found := by
  have hfinds : Finds r.commands q (r.find q) := by
    unfold find
    cases hown : r.lookup q with
    | some c => exact .own (h.lookup_eq_some_iff.mp hown)
    | none =>
      have hfree := lookup_eq_none_iff.mp hown
      cases hguild : q.guildId with
      | none => exact .nothing hfree fun hne => absurd hguild hne
      | some g =>
        have hinside : q.guildId ≠ none := by simp [hguild]
        cases hglobal : r.lookup { q with guildId := none } with
        | some c => simpa only [hglobal] using .global hfree hinside (h.lookup_eq_some_iff.mp hglobal)
        | none => simpa only [hglobal] using .nothing hfree fun _ => lookup_eq_none_iff.mp hglobal
  constructor
  · rintro rfl
    exact hfinds
  · intro hfound
    cases hfound with
    | own hsole => simp [find, h.lookup_eq_some_iff.mpr hsole]
    | global hfree hguild hsole =>
      obtain ⟨g, hg⟩ := Option.ne_none_iff_exists'.mp hguild
      simp [find, lookup_eq_none_iff.mpr hfree, hg, h.lookup_eq_some_iff.mpr hsole]
    | nothing hfree hglobal =>
      cases hg : q.guildId with
      | none => simp [find, lookup_eq_none_iff.mpr hfree, hg]
      | some g =>
        simp [find, lookup_eq_none_iff.mpr hfree, hg,
          lookup_eq_none_iff.mpr (hglobal (by simp [hg]))]

lemma Lawful.find_eq_of_perm (h : r.Lawful) (h' : r'.Lawful) (hperm : r.commands.Perm r'.commands)
    (q : CommandKey) : r.find q = r'.find q :=
  h.find_eq_iff.mpr ((h'.find_eq_iff.mp rfl).perm hperm.symm)

lemma commands_registerAll (hapart : ds.Pairwise Declaration.Apart) :
    (registerAll ds).commands = ds.filterMap fun d => d.check.toOption := by
  induction ds using List.reverseRecOn with
  | nil => rfl
  | append_singleton ds d ih =>
    obtain ⟨hds, -, hlast⟩ := List.pairwise_append.mp hapart
    rw [registerAll_concat, List.filterMap_append, ← ih hds]
    cases hcheck : d.check with
    | error e =>
      have hfails : (registerAll ds).register d = (.error e, registerAll ds) := by
        rw [register, hcheck]
      rw [hfails]
      simp [hcheck, Except.toOption]
    | ok c =>
      have hfree : ∀ o ∈ (registerAll ds).commands, o.key ≠ c.key := by
        intro o ho hkey
        rw [ih hds] at ho
        obtain ⟨d', hd', ho⟩ := List.mem_filterMap.mp ho
        cases hcheck' : d'.check with
        | error e => simp [hcheck', Except.toOption] at ho
        | ok o' =>
          obtain rfl : o' = o := by simpa [hcheck', Except.toOption] using ho
          exact hlast d' hd' d List.mem_cons_self o' c hcheck' hcheck (RegisteredCommand.key_eq_iff.mp hkey)
      rw [register_eq_ok.mpr ⟨hcheck, hfree, rfl⟩]
      simp [hcheck, Except.toOption]

/-- Whatever order commands that can be told apart are registered in, the same ones are registered, and
every query finds the same: the one command that answers it, else the one global command of that name. -/
theorem find_in_any_order (hperm : ds.Perm es) (hapart : ds.Pairwise Declaration.Apart) :
    (registerAll ds).commands.Perm (registerAll es).commands ∧
    ∀ q : CommandKey, (registerAll ds).find q = (registerAll es).find q ∧
      ∀ found, (registerAll ds).find q = found ↔ Finds (registerAll ds).commands q found := by
  have hapart' : es.Pairwise Declaration.Apart := (hperm.pairwise_iff fun h => h.symm).mp hapart
  have hcommands : (registerAll ds).commands.Perm (registerAll es).commands := by
    rw [commands_registerAll hapart, commands_registerAll hapart']
    exact hperm.filterMap _
  have hlawful := lawful_registerAll ds
  exact ⟨hcommands, fun q => ⟨hlawful.find_eq_of_perm (lawful_registerAll es) hcommands q,
    fun _ => hlawful.find_eq_iff⟩⟩

def openPing : Declaration := { Declaration.chatInput "ping" with handler := some fun _ _ => .ok .none }

def guildPing : Declaration := { openPing with guild := some "5" }

theorem pings_found_in_any_order :
    ([openPing, guildPing].Perm [guildPing, openPing] ∧
      [openPing, guildPing].Pairwise Declaration.Apart) ∧
    (registerAll [openPing, guildPing]).find ⟨"ping", some ⟨5⟩, .chatInput, none, none⟩ =
      (registerAll [guildPing, openPing]).find ⟨"ping", some ⟨5⟩, .chatInput, none, none⟩ ∧
    ((registerAll [guildPing, openPing]).find ⟨"ping", some ⟨5⟩, .chatInput, none, none⟩).map (·.key) =
      some ⟨"ping", some ⟨5⟩, .chatInput, none, none⟩ ∧
    (registerAll [openPing, guildPing]).find ⟨"ping", some ⟨6⟩, .chatInput, none, none⟩ =
      (registerAll [guildPing, openPing]).find ⟨"ping", some ⟨6⟩, .chatInput, none, none⟩ ∧
    ((registerAll [guildPing, openPing]).find ⟨"ping", some ⟨6⟩, .chatInput, none, none⟩).map (·.key) =
      some ⟨"ping", none, .chatInput, none, none⟩ := by
  have hperm : [openPing, guildPing].Perm [guildPing, openPing] := .swap ..
  have hapart : [openPing, guildPing].Pairwise Declaration.Apart :=
    List.pairwise_pair.mpr (Declaration.apart_of_key_ne (by decide))
  obtain ⟨-, hfind⟩ := find_in_any_order hperm hapart
  exact ⟨⟨hperm, hapart⟩, (hfind _).1, by decide, (hfind _).1, by decide⟩

end Registry

end DiscordBot
