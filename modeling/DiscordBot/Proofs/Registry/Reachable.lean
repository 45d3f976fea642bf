import DiscordBot.Command.Registry
import Mathlib.Data.List.Nodup

/-! The registries that registering commands leads to. No two commands of one share their key, so that
a key finds the command that has it. -/

namespace DiscordBot

lemma except_bind_eq_ok {ε α β : Type} {x : Except ε α} {f : α → Except ε β} {b : β} :
    (x >>= f) = .ok b ↔ ∃ a, x = .ok a ∧ f a = .ok b := by
  cases x with
  | error e => simp [bind, Except.bind]
  | ok a => simp [bind, Except.bind]

lemma require_eq_ok {condition : Bool} {e : BotError} :
    require condition e = .ok () ↔ condition = true := by
  cases condition <;> simp [require]

namespace Declaration

lemma check_eq_ok {d : Declaration} {c : RegisteredCommand} :
    d.check = .ok c ↔ ∃ handler guildId, d.checkName = .ok () ∧ d.requireHandler = .ok handler ∧
      d.readGuild = .ok guildId ∧ d.checkDescription = .ok () ∧ d.checkCount = .ok () ∧
      d.checkMenu = .ok () ∧ checkArguments d.name d.arguments = .ok () ∧ d.checkParent = .ok () ∧
      c = d.command handler guildId := by
  constructor
  · intro h
    obtain ⟨⟨⟩, hname, h⟩ := except_bind_eq_ok.mp h
    obtain ⟨handler, hhandler, h⟩ := except_bind_eq_ok.mp h
    obtain ⟨guildId, hguild, h⟩ := except_bind_eq_ok.mp h
    obtain ⟨⟨⟩, hdescription, h⟩ := except_bind_eq_ok.mp h
    obtain ⟨⟨⟩, hcount, h⟩ := except_bind_eq_ok.mp h
    obtain ⟨⟨⟩, hmenu, h⟩ := except_bind_eq_ok.mp h
    obtain ⟨⟨⟩, harguments, h⟩ := except_bind_eq_ok.mp h
    obtain ⟨⟨⟩, hparent, h⟩ := except_bind_eq_ok.mp h
    exact ⟨handler, guildId, hname, hhandler, hguild, hdescription, hcount, hmenu, harguments,
      hparent, (Except.ok.inj h).symm⟩
  · rintro ⟨handler, guildId, hname, hhandler, hguild, hdescription, hcount, hmenu, harguments,
      hparent, rfl⟩
    simp only [check, hname, hhandler, hguild, hdescription, hcount, hmenu, harguments, hparent]
    rfl

lemma checkMenu_eq_ok {d : Declaration} :
    d.checkMenu = .ok () ↔ d.kind = .chatInput ∨ (d.arguments = [] ∧ d.parent = none) := by
  have h : d.checkMenu = .ok () ↔ (d.kind == .chatInput || d.arguments.isEmpty) = true ∧
      (d.kind == .chatInput || d.parent.isNone) = true := by
    constructor
    · intro h
      obtain ⟨⟨⟩, h₁, h₂⟩ := except_bind_eq_ok.mp h
      exact ⟨require_eq_ok.mp h₁, require_eq_ok.mp h₂⟩
    · rintro ⟨h₁, h₂⟩
      exact except_bind_eq_ok.mpr ⟨(), require_eq_ok.mpr h₁, require_eq_ok.mpr h₂⟩
  rw [h]
  by_cases hk : d.kind = .chatInput <;> simp [hk]

end Declaration

namespace Registry

variable {r r' : Registry} {c d : RegisteredCommand}

lemma register_eq_ok {d : Declaration} :
    r.register d = (.ok c, r') ↔
      d.check = .ok c ∧ (∀ o ∈ r.commands, o.key ≠ c.key) ∧ r' = ⟨r.commands ++ [c]⟩ := by
  unfold register
  cases hcheck : d.check with
  | error e => simp
  | ok b =>
    dsimp only
    split
    · rename_i htaken
      simp only [Prod.mk.injEq, reduceCtorEq, false_and, Except.ok.injEq, false_iff, not_and]
      rintro rfl hfree
      obtain ⟨o, ho, hkey⟩ := List.any_eq_true.mp htaken
      exact absurd (beq_iff_eq.mp hkey) (hfree o ho)
    · rename_i hfree
      simp only [Prod.mk.injEq, Except.ok.injEq]
      constructor
      · rintro ⟨rfl, rfl⟩
        exact ⟨rfl, by simpa using hfree, rfl⟩
      · rintro ⟨rfl, -, rfl⟩
        exact ⟨rfl, rfl⟩

lemma register_of_error {d : Declaration} {e : BotError} (h : (r.register d).1 = .error e) :
    (r.register d).2 = r := by
  unfold register at h ⊢
  cases hcheck : d.check with
  | error e => rfl
  | ok b =>
    rw [hcheck] at h
    dsimp only at h ⊢
    split at h
    · rw [if_pos ‹_›]
    · cases h

lemma register_cases (r : Registry) (d : Declaration) : (r.register d).2 = r ∨
    ∃ c, d.check = .ok c ∧ (∀ o ∈ r.commands, o.key ≠ c.key) ∧ (r.register d).2 = ⟨r.commands ++ [c]⟩ := by
  cases h : (r.register d).1 with
  | error e => exact .inl (register_of_error h)
  | ok c => exact .inr ⟨c, register_eq_ok.mp (Prod.ext h rfl)⟩

/-- What is left by any number of registrations. Only the three kinds with a name can be declared. -/
inductive Reachable : Registry → Prop
  | empty : Reachable {}
  | register {r : Registry} {d : Declaration} : Reachable r →
      d.kind ∈ [.chatInput, .user, .message] → Reachable (r.register d).2

def registerAll (ds : List Declaration) : Registry := ds.foldl (fun r d => (r.register d).2) {}

theorem reachable_registerAll {ds : List Declaration}
    (hds : ∀ d ∈ ds, d.kind ∈ [.chatInput, .user, .message]) : (registerAll ds).Reachable :=
  List.foldlRecOn ds _ .empty fun _ hr d hd => hr.register (hds d hd)

lemma Reachable.declared (h : r.Reachable) (hc : c ∈ r.commands) :
    ∃ d : Declaration, d.kind ∈ [.chatInput, .user, .message] ∧ d.check = .ok c := by
  induction h with
  | empty => simp at hc
  | @register r₁ d₁ _ hk ih =>
    rcases register_cases r₁ d₁ with hsame | ⟨b, hcheck, -, hnext⟩
    · exact ih (hsame ▸ hc)
    · rw [hnext] at hc
      rcases List.mem_append.mp hc with hmem | hmem
      · exact ih hmem
      · rw [List.mem_singleton.mp hmem]
        exact ⟨d₁, hk, hcheck⟩

theorem Reachable.nodup_keys (h : r.Reachable) : (r.commands.map RegisteredCommand.key).Nodup := by
  induction h with
  | empty => simp
  | @register r₁ d₁ _ _ ih =>
    rcases register_cases r₁ d₁ with hsame | ⟨b, -, hfree, hnext⟩
    · rwa [hsame]
    · rw [hnext, List.map_append, List.nodup_append]
      refine ⟨ih, by simp, ?_⟩
      intro k hk k' hk'
      obtain ⟨o, ho, rfl⟩ := List.mem_map.mp hk
      rw [List.mem_singleton.mp hk']
      exact hfree o ho

lemma Reachable.eq_of_key_eq (h : r.Reachable) (hc : c ∈ r.commands) (hd : d ∈ r.commands)
    (hk : c.key = d.key) : c = d :=
  List.inj_on_of_nodup_map h.nodup_keys hc hd hk

lemma Reachable.kind_mem (h : r.Reachable) (hc : c ∈ r.commands) :
    c.app.kind ∈ [.chatInput, .user, .message] := by
  obtain ⟨d, hk, hcheck⟩ := h.declared hc
  obtain ⟨_, _, -, -, -, -, -, -, -, -, rfl⟩ := Declaration.check_eq_ok.mp hcheck
  exact hk

lemma Reachable.leaf (h : r.Reachable) (hc : c ∈ r.commands) :
    ∀ o ∈ c.app.options.getD [], o.options = none := by
  obtain ⟨d, -, hcheck⟩ := h.declared hc
  obtain ⟨_, _, -, -, -, -, -, -, -, -, rfl⟩ := Declaration.check_eq_ok.mp hcheck
  intro o ho
  rw [Declaration.command] at ho
  dsimp only at ho
  split at ho
  · cases ho
  · obtain ⟨a, -, rfl⟩ := List.mem_map.mp ho
    exact a.leaf

lemma Reachable.kind_of_group (h : r.Reachable) (hc : c ∈ r.commands) {g : Group}
    (hg : c.group = some g) : c.app.kind = .chatInput := by
  obtain ⟨d, -, hcheck⟩ := h.declared hc
  obtain ⟨_, _, -, -, -, -, -, hmenu, -, -, rfl⟩ := Declaration.check_eq_ok.mp hcheck
  rcases Declaration.checkMenu_eq_ok.mp hmenu with hk | ⟨-, hp⟩
  · exact hk
  · simp [Declaration.command, hp] at hg

lemma Reachable.group_of_subgroup (h : r.Reachable) (hc : c ∈ r.commands) {s : Subgroup}
    (hs : c.subgroup = some s) : c.group = some s.parent := by
  obtain ⟨d, -, hcheck⟩ := h.declared hc
  obtain ⟨_, _, -, -, -, -, -, -, -, -, rfl⟩ := Declaration.check_eq_ok.mp hcheck
  cases hp : d.parent with
  | none => simp [Declaration.command, hp] at hs
  | some p =>
    cases p with
    | group g => simp [Declaration.command, hp, Parent.inner?] at hs
    | subgroup s' =>
      simp only [Declaration.command, hp, Parent.inner?, Option.bind_some, Option.some.injEq] at hs
      simp [Declaration.command, hp, Parent.outer, hs]

lemma Reachable.lookup_key (h : r.Reachable) (hc : c ∈ r.commands) : r.lookup c.key = some c := by
  cases hd : r.lookup c.key with
  | none =>
    have := List.find?_eq_none.mp hd c hc
    simp at this
  | some d =>
    have hk : d.key = c.key := by simpa using List.find?_some hd
    rw [h.eq_of_key_eq (List.mem_of_find?_eq_some hd) hc hk]

lemma lookup_eq_none {key : CommandKey} (h : ∀ c ∈ r.commands, c.key ≠ key) :
    r.lookup key = none :=
  List.find?_eq_none.mpr (by simpa using h)

theorem Reachable.find_key (h : r.Reachable) (hc : c ∈ r.commands) : r.find c.key = some c := by
  simp [find, h.lookup_key hc]

theorem Reachable.find_global (h : r.Reachable) (hc : c ∈ r.commands) (hg : c.app.guildId = none)
    {guildId : Option Snowflake}
    (hfree : ∀ d ∈ r.commands, d.key ≠ { c.key with guildId := guildId }) :
    r.find { c.key with guildId := guildId } = some c := by
  have hkey : { c.key with guildId := none } = c.key := by simp [RegisteredCommand.key, hg]
  cases guildId with
  | none => exact absurd hkey.symm (hfree c hc)
  | some g => simp [find, lookup_eq_none hfree, hkey, h.lookup_key hc]

end Registry

end DiscordBot
