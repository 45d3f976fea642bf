import DiscordBot.Proofs.Command.Nested
import DiscordBot.Proofs.Published.Groups
import DiscordBot.Proofs.Registry.Rules

/-! The limits of the service in what is published. Names and choices keep to them at every depth, and what
is no group keeps to them as a whole. How a group describes itself and how much is in it nobody checks. -/

namespace DiscordBot

namespace CommandOption

structure Admitted (o : CommandOption) : Prop where
  name : Named TypedChar o.name
  description : o.description.length ≤ 100
  options : (o.options.getD []).length ≤ 25
  choices : (o.choices.getD []).length ≤ 25

/-- An option of a group. If it is a group itself, its description is as it was declared, and so much is in
it as was put there. -/
structure Checked (cs : List RegisteredCommand) (o : CommandOption) : Prop where
  name : Named TypedChar o.name
  choices : (o.choices.getD []).length ≤ 25
  description : o.description.length ≤ 100 ∨ o.kind = .subCommandGroup ∧
    ∃ c ∈ cs, ∃ s ∈ c.subgroup, s.name = o.name ∧ s.description = some o.description
  count : (o.options.getD []).length ≤ 25 ∨ o.kind = .subCommandGroup
  below : ∀ q ∈ o.options.getD [], q.Everywhere Admitted

variable {cs : List RegisteredCommand} {o : CommandOption}

lemma Obeys.admitted (h : o.Obeys) (hleaf : o.options = none) : o.Everywhere Admitted := by
  refine .intro ⟨h.name, h.description, by simp [hleaf], ?_⟩ (by simp [hleaf])
  cases hc : o.choices with
  | none => simp
  | some cs => exact (h.choices cs hc).2.1

lemma Everywhere.checked (h : o.Everywhere Admitted) : o.Checked cs := by
  obtain ⟨here, below⟩ := h
  exact ⟨here.name, here.choices, .inl here.description, .inl here.options, below⟩

lemma Checked.admitted (h : o.Checked cs)
    (hgroup : o.kind = .subCommandGroup → o.description.length ≤ 100 ∧ (o.options.getD []).length ≤ 25) :
    o.Everywhere Admitted :=
  .intro ⟨h.name, h.description.elim id fun hd => (hgroup hd.1).1,
    h.count.elim id fun hk => (hgroup hk).2, h.choices⟩ h.below

lemma Checked.addOption {q : CommandOption} (h : o.Checked cs) (hk : o.kind = .subCommandGroup)
    (hq : q.Everywhere Admitted) : (o.addOption q).Checked cs := by
  refine ⟨h.name, h.choices, h.description, .inr hk, fun p hp => ?_⟩
  rcases List.mem_append.mp hp with hp | hp
  · exact h.below p hp
  · exact List.mem_singleton.mp hp ▸ hq

end CommandOption

namespace AppCommand

structure Admitted (t : AppCommand) : Prop where
  typedName : t.kind = .chatInput → Named TypedChar t.name
  menuName : t.kind ≠ .chatInput → Named MenuChar t.name
  description : t.description.length ≤ 100
  count : (t.options.getD []).length ≤ 25
  below : ∀ o ∈ t.options.getD [], o.Everywhere CommandOption.Admitted

structure CheckedGroup (cs : List RegisteredCommand) (t : AppCommand) : Prop where
  kind : t.kind = .chatInput
  name : Named TypedChar t.name
  description : t.description.length ≤ 100 ∨ ∃ c ∈ cs, ∃ g ∈ c.group,
    g.name = t.name ∧ c.app.guildId = t.guildId ∧ g.description = some t.description
  below : ∀ o ∈ t.options.getD [], o.Checked cs

structure Moderate (t : AppCommand) : Prop where
  description : t.description.length ≤ 100
  count : (t.options.getD []).length ≤ 25
  below : ∀ o ∈ t.options.getD [], o.kind = .subCommandGroup →
    o.description.length ≤ 100 ∧ (o.options.getD []).length ≤ 25

variable {cs : List RegisteredCommand} {t : AppCommand}

lemma Admitted.moderate (h : t.Admitted) : t.Moderate where
  description := h.description
  count := h.count
  below o ho _ := by
    obtain ⟨here, -⟩ := h.below o ho
    exact ⟨here.description, here.options⟩

lemma CheckedGroup.admitted (h : t.CheckedGroup cs) (hm : t.Moderate) : t.Admitted where
  typedName _ := h.name
  menuName hk := absurd h.kind hk
  description := hm.description
  count := hm.count
  below o ho := (h.below o ho).admitted (hm.below o ho)

end AppCommand

lemma length_description_le {d : Option String} (h : ¬(d.getD defaultDescription).length ≤ 100) :
    d = some (d.getD defaultDescription) := by
  cases d with
  | none => exact absurd (by decide) h
  | some d => rfl

namespace Registry

variable {r : Registry} {c : RegisteredCommand} {t : AppCommand}

lemma Reachable.lawful (h : r.Reachable) : r.Lawful := by
  induction h with
  | empty => exact ⟨.nil, List.forall_mem_nil _⟩
  | register _ _ ih => exact ih.register _

end Registry

namespace RegisteredCommand

variable {cs : List RegisteredCommand} {c : RegisteredCommand} {t : AppCommand}

lemma Obeys.arguments_admitted (h : c.Obeys) (hleaf : ∀ o ∈ c.app.options.getD [], o.options = none) :
    ∀ o ∈ c.app.options.getD [], o.Everywhere CommandOption.Admitted :=
  fun o ho => (h.arguments o ho).admitted (hleaf o ho)

lemma Obeys.admitted (h : c.Obeys) (hleaf : ∀ o ∈ c.app.options.getD [], o.options = none) :
    c.app.Admitted :=
  ⟨h.typedName, h.menuName, h.description, h.count, h.arguments_admitted hleaf⟩

lemma Obeys.nested_admitted (h : c.Obeys) (hleaf : ∀ o ∈ c.app.options.getD [], o.options = none)
    (hkind : c.app.kind = .chatInput) : c.nested.Everywhere CommandOption.Admitted :=
  .intro ⟨h.typedName hkind, h.description, h.count, by simp [nested, CommandOption.named]⟩
    (h.arguments_admitted hleaf)

lemma addTo_checked (hc : c ∈ cs) (hobeys : c.Obeys) (hkind : c.app.kind = .chatInput)
    (hleaf : ∀ o ∈ c.app.options.getD [], o.options = none) (ht : t.CheckedGroup cs) :
    (c.addTo t).CheckedGroup cs := by
  have hnested := hobeys.nested_admitted hleaf hkind
  rw [addTo_eq]
  refine ⟨ht.kind, ht.name, ht.description, fun o ho => ?_⟩
  rcases mem_nestIn ho with ho | rfl | ⟨q, hq, hk, rfl⟩
  · exact ht.below o ho
  · exact hnested.checked
  · refine CommandOption.Checked.addOption ?_ hk hnested
    rcases hq with hq | ⟨s, hs, rfl⟩
    · exact ht.below q hq
    · refine ⟨hobeys.subgroup s hs, by simp [Subgroup.published, CommandOption.named], ?_, .inr rfl,
        by simp [Subgroup.published]⟩
      rw [or_iff_not_imp_left]
      exact fun hlong => ⟨rfl, c, hc, s, hs, rfl, length_description_le hlong⟩

lemma published_checked (hc : c ∈ cs) (hobeys : c.Obeys) {g : Group} (hg : g ∈ c.group) :
    (g.published c.app.guildId).CheckedGroup cs := by
  refine ⟨rfl, hobeys.group g hg, ?_, by simp [Group.published]⟩
  rw [or_iff_not_imp_left]
  exact fun hlong => ⟨c, hc, g, hg, rfl, rfl, length_description_le hlong⟩

end RegisteredCommand

namespace Registry

variable {r : Registry}

lemma Reachable.checked (h : r.Reachable) : ∀ t ∈ r.published,
    (t.isGroup = false → t.Admitted) ∧ (t.isGroup = true → t.CheckedGroup r.commands) := by
  have hobeys := h.lawful.obeys
  refine RegisteredCommand.forall_foldl_publish [] ?_ ?_ ?_ (by simp)
  · intro c hc _
    have hadmitted := (hobeys c hc).admitted (h.leaf hc)
    refine ⟨fun _ => hadmitted, fun hgroup => ?_⟩
    -- Only what is typed has arguments.
    have hkind : c.app.kind = .chatInput := by
      by_contra hmenu
      simp [AppCommand.isGroup, ((hobeys c hc).menu hmenu).1] at hgroup
    exact ⟨hkind, hadmitted.typedName hkind, .inl hadmitted.description,
      fun o ho => (hadmitted.below o ho).checked⟩
  · intro c hc g hg
    have hgroup := RegisteredCommand.isGroup_addTo (c := c) (t := g.published c.app.guildId) (.inr rfl)
    refine ⟨fun hnot => by simp [hgroup] at hnot, fun _ => ?_⟩
    exact RegisteredCommand.addTo_checked hc (hobeys c hc) (h.kind_of_group hc hg) (h.leaf hc)
      (RegisteredCommand.published_checked hc (hobeys c hc) hg)
  · intro c hc g hg t ht hold
    have hgroup := RegisteredCommand.isGroup_addTo (c := c) (.inl ht)
    refine ⟨fun hnot => by simp [hgroup] at hnot, fun _ => ?_⟩
    exact RegisteredCommand.addTo_checked hc (hobeys c hc) (h.kind_of_group hc hg) (h.leaf hc) (hold.2 ht)

/-- What is published keeps to the limits, except for groups. A group, or a group in one, has an allowed
name and the description that was declared for it, and what is in it keeps to the limits. So all of it does
exactly if no group is described at too great length or holds too much. -/
theorem published_limits (h : r.Reachable) :
    (∀ t ∈ r.published, t.isGroup = false → t.Admitted) ∧
    (∀ t ∈ r.published, t.isGroup = true → t.CheckedGroup r.commands) ∧
    ((∀ t ∈ r.published, t.Admitted) ↔ ∀ t ∈ r.published, t.isGroup = true → t.Moderate) := by
  have hchecked := h.checked
  refine ⟨fun t ht => (hchecked t ht).1, fun t ht => (hchecked t ht).2, ?_⟩
  constructor
  · intro hall t ht _
    exact (hall t ht).moderate
  · intro hgroups t ht
    cases hgroup : t.isGroup with
    | false => exact (hchecked t ht).1 hgroup
    | true => exact ((hchecked t ht).2 hgroup).admitted (hgroups t ht hgroup)

def letters : Registry :=
  let group : Group := { name := "letters", description := some (String.ofList (List.replicate 101 'a')) }
  registerAll ("abcdefghijklmnopqrstuvwxyz".toList.map fun letter =>
    { Declaration.chatInput (String.singleton letter) with
      handler := some fun _ _ => .ok .none, parent := some (.group group) })

lemma letters_reachable : letters.Reachable := by
  apply reachable_registerAll
  intro d hd
  obtain ⟨letter, -, rfl⟩ := List.mem_map.mp hd
  exact List.mem_cons_self

lemma letters_immoderate : ∃ t ∈ letters.published, t.isGroup = true ∧ t.description.length = 101 ∧
    (t.options.getD []).length = 26 := by
  have hgroup : letters.published.any (fun t => t.isGroup && t.description.length == 101 &&
      (t.options.getD []).length == 26) = true := by decide +kernel
  obtain ⟨t, ht, hmatch⟩ := List.any_eq_true.mp hgroup
  simp only [Bool.and_eq_true, beq_iff_eq] at hmatch
  exact ⟨t, ht, hmatch.1.1, hmatch.1.2, hmatch.2⟩

theorem letters_published_limits :
    letters.Reachable ∧
    (∃ t ∈ letters.published, t.isGroup = true ∧ t.CheckedGroup letters.commands) ∧
    ¬∀ t ∈ letters.published, t.Admitted := by
  obtain ⟨-, hchecked, hall⟩ := published_limits letters_reachable
  obtain ⟨t, ht, hgroup, hlong, -⟩ := letters_immoderate
  refine ⟨letters_reachable, ⟨t, ht, hgroup, hchecked t ht hgroup⟩, ?_⟩
  rw [hall]
  intro hmoderate
  have hshort := (hmoderate t ht hgroup).description
  omega

theorem published_limits_exceeded :
    ∃ r : Registry, r.Reachable ∧ ∃ t ∈ r.published,
      ¬t.description.length ≤ 100 ∧ ¬(t.options.getD []).length ≤ 25 := by
  obtain ⟨t, ht, -, hlong, hmany⟩ := letters_immoderate
  exact ⟨letters, letters_reachable, t, ht, by omega, by omega⟩

end Registry

end DiscordBot
