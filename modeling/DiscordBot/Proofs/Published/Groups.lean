import DiscordBot.Proofs.Published.Leaves

/-! The shape of published groups: what a group holds, and that there is one of each name. -/

namespace DiscordBot

lemma OptionType.isNesting_iff {k : OptionType} :
    k.isNesting = true ↔ k = .subCommand ∨ k = .subCommandGroup := by
  cases k <;> simp [OptionType.isNesting]

structure GroupOptions (os : List CommandOption) : Prop where
  isNesting : ∀ o ∈ os, o.kind.isNesting = true
  ne_nil : os ≠ []
  filled : ∀ o ∈ os, o.kind = .subCommandGroup → o.options.getD [] ≠ []
  subCommands : ∀ o ∈ os, o.kind = .subCommandGroup →
    ∀ q ∈ o.options.getD [], q.kind = .subCommand
  subgroups : os.Pairwise fun a b =>
    a.kind = .subCommandGroup → b.kind = .subCommandGroup → a.name ≠ b.name

namespace RegisteredCommand

variable {c : RegisteredCommand} {os : List CommandOption}

lemma mem_nestIn {o : CommandOption} (h : o ∈ c.nestIn os) :
    o ∈ os ∨ o = c.nested ∨ ∃ q, (q ∈ os ∨ ∃ s ∈ c.subgroup, q = s.published) ∧
      q.kind = .subCommandGroup ∧ o = q.addOption c.nested := by
  cases hs : c.subgroup with
  | none =>
    simp only [nestIn, hs, List.mem_append, List.mem_singleton] at h
    exact h.imp_right Or.inl
  | some s =>
    simp only [nestIn, hs] at h
    rcases mem_updateFirst h with h | rfl | ⟨q, hq, hp, rfl⟩
    · exact Or.inl h
    · exact Or.inr (Or.inr ⟨s.published, Or.inr ⟨s, rfl, rfl⟩, rfl, rfl⟩)
    · have hp : q.kind = .subCommandGroup ∧ q.name = s.name := by simpa using hp
      exact Or.inr (Or.inr ⟨q, Or.inl hq, hp.1, rfl⟩)

lemma subgroups_nestIn
    (h : os.Pairwise fun a b =>
      a.kind = .subCommandGroup → b.kind = .subCommandGroup → a.name ≠ b.name) :
    (c.nestIn os).Pairwise fun a b =>
      a.kind = .subCommandGroup → b.kind = .subCommandGroup → a.name ≠ b.name := by
  cases hs : c.subgroup with
  | none =>
    simp only [nestIn, hs, List.pairwise_append, List.mem_singleton]
    refine ⟨h, List.pairwise_singleton _ _, ?_⟩
    rintro a - _ rfl - hk
    cases hk
  | some s =>
    simp only [nestIn, hs]
    refine pairwise_updateFirst h (fun _ _ _ h => h) (fun _ _ _ h => h) ?_
    intro x _ hp hk _ hname
    have hname : x.name = s.name := hname
    simp [hk, hname] at hp

lemma groupOptions_nestIn (h : os = [] ∨ GroupOptions os) : GroupOptions (c.nestIn os) where
  isNesting o ho := by
    rcases mem_nestIn ho with ho | rfl | ⟨q, -, hk, rfl⟩
    · rcases h with rfl | h
      · cases ho
      · exact h.isNesting o ho
    · rfl
    · exact congrArg OptionType.isNesting hk
  ne_nil := by
    rcases h with rfl | h
    · obtain ⟨o, ho, -⟩ := nestIn_nil c
      simp [ho]
    · obtain ⟨o, os, rfl⟩ := List.exists_cons_of_ne_nil h.ne_nil
      obtain ⟨q, qs, hq, -⟩ := nestIn_cons c os (h.isNesting o List.mem_cons_self)
      simp [hq]
  filled o ho hk := by
    rcases mem_nestIn ho with ho | rfl | ⟨q, -, -, rfl⟩
    · rcases h with rfl | h
      · cases ho
      · exact h.filled o ho hk
    · cases hk
    · simp [CommandOption.addOption]
  subCommands o ho hk p hp := by
    rcases mem_nestIn ho with ho | rfl | ⟨q, hq, hqk, rfl⟩
    · rcases h with rfl | h
      · cases ho
      · exact h.subCommands o ho hk p hp
    · cases hk
    · simp only [CommandOption.addOption, Option.getD_some, List.mem_append,
        List.mem_singleton] at hp
      rcases hp with hp | rfl
      · rcases hq with hq | ⟨s, -, rfl⟩
        · rcases h with rfl | h
          · cases hq
          · exact h.subCommands q hq hqk p hp
        · cases hp
      · rfl
  subgroups := by
    rcases h with rfl | h
    · exact subgroups_nestIn .nil
    · exact subgroups_nestIn h.subgroups

end RegisteredCommand

structure GroupsFormed (built : List AppCommand) : Prop where
  kind : ∀ t ∈ built, t.isGroup = true → t.kind = .chatInput
  options : ∀ t ∈ built, t.isGroup = true → GroupOptions (t.options.getD [])
  distinct : built.Pairwise fun a b =>
    a.isGroup = true → b.isGroup = true → (a.name, a.guildId) ≠ (b.name, b.guildId)

namespace RegisteredCommand

variable {c : RegisteredCommand} {built : List AppCommand} {cs : List RegisteredCommand}

lemma groupsFormed_publish (hc : c.Publishable) (h : GroupsFormed built) :
    GroupsFormed (publish built c) := by
  cases hg : c.group with
  | none =>
    have happ : c.app.isGroup ≠ true := by simp [hc.not_isGroup]
    simp only [publish, hg]
    refine ⟨?_, ?_, ?_⟩
    · intro t ht hgroup
      rcases List.mem_append.mp ht with ht | ht
      · exact h.kind t ht hgroup
      · exact absurd hgroup (List.mem_singleton.mp ht ▸ happ)
    · intro t ht hgroup
      rcases List.mem_append.mp ht with ht | ht
      · exact h.options t ht hgroup
      · exact absurd hgroup (List.mem_singleton.mp ht ▸ happ)
    · refine List.pairwise_append.mpr ⟨h.distinct, List.pairwise_singleton _ _, ?_⟩
      intro a _ b hb _ hgroup
      exact absurd hgroup (List.mem_singleton.mp hb ▸ happ)
  | some g =>
    simp only [publish, hg]
    refine ⟨?_, ?_, ?_⟩
    · intro t ht hgroup
      rcases mem_updateFirst ht with ht | rfl | ⟨u, hu, hp, rfl⟩
      · exact h.kind t ht hgroup
      · simp [addTo_eq, Group.published, AppCommand.named]
      · have : u.kind = .chatInput := by simp only [Bool.and_eq_true, beq_iff_eq] at hp; exact hp.1.2
        simpa [addTo_eq] using this
    · intro t ht hgroup
      rcases mem_updateFirst ht with ht | rfl | ⟨u, hu, hp, rfl⟩
      · exact h.options t ht hgroup
      · rw [addTo_eq]
        exact groupOptions_nestIn (Or.inl rfl)
      · rw [addTo_eq]
        exact groupOptions_nestIn (Or.inr (h.options u hu (Bool.and_eq_true_iff.mp hp).2))
    · refine pairwise_updateFirst h.distinct ?_ ?_ ?_
      · intro x y hp hxy _ hy
        simpa [addTo_eq] using hxy (Bool.and_eq_true_iff.mp hp).2 hy
      · intro x y hp hxy hx _
        simpa [addTo_eq] using hxy hx (Bool.and_eq_true_iff.mp hp).2
      -- A new group is made only where no group has its name and guild.
      · intro x hx hp hgroup _ heq
        have hname : x.name = g.name ∧ x.guildId = c.app.guildId := by
          simpa [addTo_eq, Group.published, AppCommand.named] using heq
        simp [hname, h.kind x hx hgroup, hgroup] at hp

lemma groupsFormed_foldl_publish (hcs : ∀ c ∈ cs, c.Publishable) (h : GroupsFormed built) :
    GroupsFormed (cs.foldl publish built) := by
  induction cs generalizing built with
  | nil => exact h
  | cons c cs ih =>
    exact ih (fun d hd => hcs d (List.mem_cons_of_mem _ hd))
      (groupsFormed_publish (hcs c List.mem_cons_self) h)

end RegisteredCommand

theorem Registry.Reachable.groupsFormed {r : Registry} (h : r.Reachable) (hflat : r.Flat) :
    GroupsFormed r.published :=
  RegisteredCommand.groupsFormed_foldl_publish (h.publishable hflat) ⟨by simp, by simp, .nil⟩

end DiscordBot
