import DiscordBot.Command.Published
import DiscordBot.Proofs.Registry.Reachable
import Mathlib.Data.List.Perm.Basic

/-! The ways down published commands to what can be called. Together they lead to the registered
commands, to each of them once. -/

namespace DiscordBot

section UpdateFirst

variable {α β : Type} {p : α → Bool} {f : α → α} {new : α} {xs : List α}

lemma flatMap_updateFirst_perm {L : α → List β} {ys : List β}
    (hf : ∀ x, p x = true → (L (f x)).Perm (L x ++ ys)) (hnew : (L (f new)).Perm ys) :
    ((updateFirst p f new xs).flatMap L).Perm (xs.flatMap L ++ ys) := by
  induction xs with
  | nil => simpa [updateFirst] using hnew
  | cons x xs ih =>
    by_cases hx : p x = true
    · rw [updateFirst, if_pos hx, List.flatMap_cons, List.flatMap_cons]
      have hswap : (L x ++ ys ++ xs.flatMap L).Perm (L x ++ xs.flatMap L ++ ys) := by
        simpa only [List.append_assoc] using (List.perm_append_comm).append_left (L x)
      exact ((hf x hx).append_right _).trans hswap
    · rw [updateFirst, if_neg hx, List.flatMap_cons, List.flatMap_cons, List.append_assoc]
      exact ih.append_left _

lemma mem_updateFirst {y : α} (h : y ∈ updateFirst p f new xs) :
    y ∈ xs ∨ y = f new ∨ ∃ x ∈ xs, p x = true ∧ y = f x := by
  induction xs with
  | nil => exact Or.inr (Or.inl (List.mem_singleton.mp h))
  | cons x xs ih =>
    by_cases hx : p x = true
    · rw [updateFirst, if_pos hx] at h
      rcases List.mem_cons.mp h with rfl | h
      · exact Or.inr (Or.inr ⟨x, List.mem_cons_self, hx, rfl⟩)
      · exact Or.inl (List.mem_cons_of_mem _ h)
    · rw [updateFirst, if_neg hx] at h
      rcases List.mem_cons.mp h with rfl | h
      · exact Or.inl List.mem_cons_self
      · rcases ih h with h | h | ⟨z, hz, hpz, rfl⟩
        · exact Or.inl (List.mem_cons_of_mem _ h)
        · exact Or.inr (Or.inl h)
        · exact Or.inr (Or.inr ⟨z, List.mem_cons_of_mem _ hz, hpz, rfl⟩)

lemma pairwise_updateFirst {R : α → α → Prop} (hxs : xs.Pairwise R)
    (hleft : ∀ x y, p x = true → R x y → R (f x) y) (hright : ∀ x y, p y = true → R x y → R x (f y))
    (hnew : ∀ x ∈ xs, p x = false → R x (f new)) : (updateFirst p f new xs).Pairwise R := by
  induction xs with
  | nil => exact List.pairwise_singleton R (f new)
  | cons x xs ih =>
    obtain ⟨hx, hxs⟩ := List.pairwise_cons.mp hxs
    by_cases hpx : p x = true
    · rw [updateFirst, if_pos hpx]
      exact List.pairwise_cons.mpr ⟨fun y hy => hleft x y hpx (hx y hy), hxs⟩
    · rw [updateFirst, if_neg hpx]
      refine List.pairwise_cons.mpr ⟨fun y hy => ?_,
        ih hxs fun y hy => hnew y (List.mem_cons_of_mem _ hy)⟩
      rcases mem_updateFirst hy with hy | rfl | ⟨z, hz, hpz, rfl⟩
      · exact hx y hy
      · exact hnew x List.mem_cons_self (by simpa using hpx)
      · exact hright x z hpz (hx z hz)

end UpdateFirst

/-- A way down a published command: to the command itself, to a command in it, or to a command in a
group in it. -/
inductive Route where
  | self
  | command (o : CommandOption)
  | nested (s o : CommandOption)

structure Leaf where
  guildId : Option Snowflake
  kind : CommandType
  group : Option String
  subgroup : Option String
  name : String
  description : String
  options : Option (List CommandOption)

def CommandOption.routes (o : CommandOption) : List Route :=
  match o.kind with
  | .subCommand => [.command o]
  | .subCommandGroup => ((o.options.getD []).filter fun q => q.kind == .subCommand).map (.nested o)
  | _ => []

namespace AppCommand

def routes (t : AppCommand) : List Route :=
  if t.isGroup then (t.options.getD []).flatMap CommandOption.routes else [.self]

def leafAt (t : AppCommand) : Route → Leaf
  | .self => ⟨t.guildId, t.kind, none, none, t.name, t.description, t.options⟩
  | .command o => ⟨t.guildId, t.kind, some t.name, none, o.name, o.description, o.options⟩
  | .nested s o => ⟨t.guildId, t.kind, some t.name, some s.name, o.name, o.description, o.options⟩

def leaves (t : AppCommand) : List Leaf := t.routes.map t.leafAt

lemma self_mem_routes {t : AppCommand} : .self ∈ t.routes ↔ t.isGroup = false := by
  unfold routes
  split
  · rename_i h
    simp only [h, List.mem_flatMap, Bool.true_eq_false, iff_false]
    rintro ⟨o, -, ho⟩
    unfold CommandOption.routes at ho
    split at ho <;> simp at ho
  · rename_i h
    simpa using h

lemma command_mem_routes {t : AppCommand} {o : CommandOption} :
    .command o ∈ t.routes ↔ t.isGroup = true ∧ o ∈ t.options.getD [] ∧ o.kind = .subCommand := by
  unfold routes
  split
  · rename_i h
    simp only [h, List.mem_flatMap, true_and]
    constructor
    · rintro ⟨q, hq, ho⟩
      unfold CommandOption.routes at ho
      split at ho
      · rename_i hk
        cases List.mem_singleton.mp ho
        exact ⟨hq, hk⟩
      · simp at ho
      · cases ho
    · rintro ⟨ho, hk⟩
      exact ⟨o, ho, by simp [CommandOption.routes, hk]⟩
  · rename_i h
    simp [h]

lemma nested_mem_routes {t : AppCommand} {s o : CommandOption} :
    .nested s o ∈ t.routes ↔ t.isGroup = true ∧ s ∈ t.options.getD [] ∧ s.kind = .subCommandGroup ∧
      o ∈ s.options.getD [] ∧ o.kind = .subCommand := by
  unfold routes
  split
  · rename_i h
    simp only [h, List.mem_flatMap, true_and]
    constructor
    · rintro ⟨q, hq, ho⟩
      unfold CommandOption.routes at ho
      split at ho
      · simp at ho
      · rename_i hk
        obtain ⟨p, hp, heq⟩ := List.mem_map.mp ho
        cases heq
        obtain ⟨hp, hpk⟩ := List.mem_filter.mp hp
        exact ⟨hq, hk, hp, by simpa using hpk⟩
      · cases ho
    · rintro ⟨hs, hk, ho, hok⟩
      exact ⟨s, hs, by simp [CommandOption.routes, hk, ho, hok]⟩
  · rename_i h
    simp [h]

lemma isGroup_of_mem_routes {t : AppCommand} {route : Route} (h : route ∈ t.routes)
    (hne : route ≠ .self) : t.isGroup = true := by
  cases route with
  | self => exact absurd rfl hne
  | command o => exact (command_mem_routes.mp h).1
  | nested s o => exact (nested_mem_routes.mp h).1

def nestedLeaves (t : AppCommand) (os : List CommandOption) : List Leaf :=
  os.flatMap fun o => o.routes.map t.leafAt

variable {t : AppCommand} {os : List CommandOption}

lemma leaves_of_isGroup (h : t.isGroup = true) :
    t.leaves = t.nestedLeaves (t.options.getD []) := by
  simp [leaves, routes, h, nestedLeaves, List.map_flatMap]

lemma leaves_of_not_isGroup (h : t.isGroup = false) : t.leaves = [t.leafAt .self] := by
  simp [leaves, routes, h]

lemma nestedLeaves_with_options (x : Option (List CommandOption)) :
    ({ t with options := x } : AppCommand).nestedLeaves os = t.nestedLeaves os := by
  have h : ∀ o : CommandOption,
      o.routes.map ({ t with options := x } : AppCommand).leafAt = o.routes.map t.leafAt := by
    intro o
    unfold CommandOption.routes
    split <;> simp [leafAt]
  simp only [nestedLeaves, h]

lemma isGroup_iff : t.isGroup = true ↔ ∃ o os, t.options = some (o :: os) ∧ o.kind.isNesting = true := by
  unfold isGroup
  split
  · rename_i o os ho
    rw [ho]
    constructor
    · exact fun h => ⟨o, os, rfl, h⟩
    · rintro ⟨_, _, he, h⟩
      obtain ⟨rfl, rfl⟩ := List.cons.inj (Option.some.inj he)
      exact h
  · rename_i h
    simp only [Bool.false_eq_true, false_iff]
    rintro ⟨o, os, he, -⟩
    exact h o os he

lemma isGroup_of_options (h : ∀ o ∈ t.options.getD [], o.kind.isNesting = false) :
    t.isGroup = false := by
  rw [← Bool.not_eq_true, isGroup_iff]
  rintro ⟨o, os, ho, hn⟩
  rw [h o (by simp [ho])] at hn
  cases hn

end AppCommand

namespace RegisteredCommand

def leaf (c : RegisteredCommand) : Leaf where
  guildId := c.app.guildId
  kind := c.app.kind
  group := c.group.map (·.name)
  subgroup := c.subgroup.map (·.name)
  name := c.app.name
  description := c.app.description
  options := c.app.options

def InGroup (c : RegisteredCommand) (t : AppCommand) : Prop :=
  c.group.map (·.name) = some t.name ∧ c.app.guildId = t.guildId

section Leaf

variable {c : RegisteredCommand} {t : AppCommand} {route : Route} {s o : CommandOption}

lemma guildId_of_leaf (h : t.leafAt route = c.leaf) : c.app.guildId = t.guildId := by
  have hguild := congrArg Leaf.guildId h
  cases route <;> exact hguild.symm

lemma kind_of_leaf (h : t.leafAt route = c.leaf) : c.app.kind = t.kind := by
  have hkind := congrArg Leaf.kind h
  cases route <;> exact hkind.symm

lemma name_of_self (h : t.leafAt .self = c.leaf) : c.group = none ∧ c.app.name = t.name := by
  simp only [leaf, AppCommand.leafAt, Leaf.mk.injEq] at h
  exact ⟨Option.map_eq_none_iff.mp h.2.2.1.symm, h.2.2.2.2.1.symm⟩

lemma name_of_command (h : t.leafAt (.command o) = c.leaf) :
    c.subgroup = none ∧ c.app.name = o.name := by
  simp only [leaf, AppCommand.leafAt, Leaf.mk.injEq] at h
  exact ⟨Option.map_eq_none_iff.mp h.2.2.2.1.symm, h.2.2.2.2.1.symm⟩

lemma name_of_nested (h : t.leafAt (.nested s o) = c.leaf) :
    c.subgroup.map (·.name) = some s.name ∧ c.app.name = o.name := by
  simp only [leaf, AppCommand.leafAt, Leaf.mk.injEq] at h
  exact ⟨h.2.2.2.1.symm, h.2.2.2.2.1.symm⟩

lemma eq_self_of_leaf (h : t.leafAt route = c.leaf) (hg : c.group = none) : route = .self := by
  have hgroup := congrArg Leaf.group h
  cases route with
  | self => rfl
  | command o => simp [leaf, AppCommand.leafAt, hg] at hgroup
  | nested s o => simp [leaf, AppCommand.leafAt, hg] at hgroup

lemma ne_self_of_group (h : t.leafAt route = c.leaf) {name : String}
    (hg : c.group.map (·.name) = some name) : route ≠ .self := by
  rintro rfl
  rw [(name_of_self h).1] at hg
  cases hg

lemma inGroup_of_leaf (h : t.leafAt route = c.leaf) (hroute : route ≠ .self) : c.InGroup t := by
  refine ⟨?_, guildId_of_leaf h⟩
  have hgroup := congrArg Leaf.group h
  cases route with
  | self => exact absurd rfl hroute
  | command o => exact hgroup.symm
  | nested s o => exact hgroup.symm

end Leaf

structure Publishable (c : RegisteredCommand) : Prop where
  kind_of_group : ∀ {g : Group}, c.group = some g → c.app.kind = .chatInput
  group_of_subgroup : ∀ {s : Subgroup}, c.subgroup = some s → c.group = some s.parent
  not_isGroup : c.app.isGroup = false

def nestIn (c : RegisteredCommand) (os : List CommandOption) : List CommandOption :=
  match c.subgroup with
  | none => os ++ [c.nested]
  | some s => updateFirst (fun o => o.kind == .subCommandGroup && o.name == s.name)
      (fun o => o.addOption c.nested) s.published os

variable {c : RegisteredCommand} {t : AppCommand} {os : List CommandOption}

lemma addTo_eq : c.addTo t = { t with options := some (c.nestIn (t.options.getD [])) } := by
  cases hs : c.subgroup <;> simp [addTo, nestIn, hs, AppCommand.addOption]

lemma nestIn_nil (c : RegisteredCommand) : ∃ o, c.nestIn [] = [o] ∧ o.kind.isNesting = true := by
  cases hs : c.subgroup with
  | none => exact ⟨c.nested, by simp [nestIn, hs], rfl⟩
  | some s => exact ⟨s.published.addOption c.nested, by simp [nestIn, hs, updateFirst], rfl⟩

lemma nestIn_cons (c : RegisteredCommand) (os : List CommandOption) {o : CommandOption}
    (ho : o.kind.isNesting = true) :
    ∃ q qs, c.nestIn (o :: os) = q :: qs ∧ q.kind.isNesting = true := by
  cases hs : c.subgroup with
  | none => exact ⟨o, os ++ [c.nested], by simp [nestIn, hs], ho⟩
  | some s =>
    simp only [nestIn, hs, updateFirst]
    split
    · exact ⟨o.addOption c.nested, os, rfl, ho⟩
    · exact ⟨o, _, rfl, ho⟩

lemma isGroup_addTo (h : t.isGroup = true ∨ t.options = some []) : (c.addTo t).isGroup = true := by
  rw [addTo_eq, AppCommand.isGroup_iff]
  rcases h with h | h
  · obtain ⟨o, os, ho, hn⟩ := AppCommand.isGroup_iff.mp h
    obtain ⟨q, qs, hq, hk⟩ := nestIn_cons c os hn
    exact ⟨q, qs, by simp [ho, hq], hk⟩
  · obtain ⟨q, hq, hk⟩ := nestIn_nil c
    exact ⟨q, [], by simp [h, hq], hk⟩

section Group

variable (hgroup : c.group.map (·.name) = some t.name) (hguild : c.app.guildId = t.guildId)
  (hkind : c.app.kind = t.kind)

include hgroup hguild hkind

lemma leafAt_command (hs : c.subgroup = none) : t.leafAt (.command c.nested) = c.leaf := by
  simp [AppCommand.leafAt, leaf, hgroup, hguild, hkind, hs, nested, CommandOption.named]

lemma leafAt_nested {s : Subgroup} {o : CommandOption} (hs : c.subgroup = some s)
    (ho : o.name = s.name) : t.leafAt (.nested o c.nested) = c.leaf := by
  simp [AppCommand.leafAt, leaf, hgroup, hguild, hkind, hs, nested, CommandOption.named, ho]

lemma routes_addOption {s : Subgroup} {o : CommandOption} (hs : c.subgroup = some s)
    (ho : o.name = s.name) (hk : o.kind = .subCommandGroup) :
    (o.addOption c.nested).routes.map t.leafAt = o.routes.map t.leafAt ++ [c.leaf] := by
  have hq : (c.nested.kind == .subCommand) = true := rfl
  have hl := leafAt_nested hgroup hguild hkind (o := o.addOption c.nested) hs ho
  simp only [CommandOption.routes, CommandOption.addOption, hk, Option.getD_some,
    List.filter_append, List.map_append, List.map_map] at hl ⊢
  refine congrArg₂ _ rfl ?_
  simp [hq, hl]

lemma nestedLeaves_nestIn :
    (t.nestedLeaves (c.nestIn os)).Perm (t.nestedLeaves os ++ [c.leaf]) := by
  cases hs : c.subgroup with
  | none =>
    have hroutes : c.nested.routes = [.command c.nested] := rfl
    simp [nestIn, hs, AppCommand.nestedLeaves, hroutes, leafAt_command hgroup hguild hkind hs]
  | some s =>
    simp only [nestIn, hs]
    -- The command goes to the end of the group that has its name, or into a new one.
    refine flatMap_updateFirst_perm (fun o ho => ?_) ?_
    · obtain ⟨hk, hn⟩ : o.kind = .subCommandGroup ∧ o.name = s.name := by simpa using ho
      exact List.Perm.of_eq (routes_addOption hgroup hguild hkind hs hn hk)
    · exact List.Perm.of_eq (routes_addOption hgroup hguild hkind (o := s.published) hs rfl rfl)

lemma leaves_addTo (ht : t.isGroup = true) : (c.addTo t).leaves.Perm (t.leaves ++ [c.leaf]) := by
  rw [AppCommand.leaves_of_isGroup (isGroup_addTo (Or.inl ht)), AppCommand.leaves_of_isGroup ht,
    addTo_eq, AppCommand.nestedLeaves_with_options]
  exact nestedLeaves_nestIn hgroup hguild hkind

lemma leaves_addTo_empty (ht : t.options = some []) : (c.addTo t).leaves.Perm [c.leaf] := by
  rw [AppCommand.leaves_of_isGroup (isGroup_addTo (Or.inr ht)), addTo_eq,
    AppCommand.nestedLeaves_with_options, ht]
  exact nestedLeaves_nestIn hgroup hguild hkind

end Group

variable {cs : List RegisteredCommand}

lemma forall_foldl_publish {P : AppCommand → Prop} (built : List AppCommand)
    (hplain : ∀ c ∈ cs, c.group = none → P c.app)
    (hnew : ∀ c ∈ cs, ∀ g ∈ c.group, P (c.addTo (g.published c.app.guildId)))
    (hold : ∀ c ∈ cs, ∀ g ∈ c.group, ∀ t, t.isGroup = true → P t → P (c.addTo t))
    (hbuilt : ∀ t ∈ built, P t) : ∀ t ∈ cs.foldl publish built, P t := by
  induction cs generalizing built with
  | nil => exact hbuilt
  | cons c cs ih =>
    refine ih (publish built c) (fun d hd => hplain d (List.mem_cons_of_mem _ hd))
      (fun d hd => hnew d (List.mem_cons_of_mem _ hd))
      (fun d hd => hold d (List.mem_cons_of_mem _ hd)) ?_
    intro t ht
    cases hg : c.group with
    | none =>
      simp only [publish, hg, List.mem_append, List.mem_singleton] at ht
      rcases ht with ht | rfl
      · exact hbuilt t ht
      · exact hplain c List.mem_cons_self hg
    | some g =>
      simp only [publish, hg] at ht
      rcases mem_updateFirst ht with ht | rfl | ⟨u, hu, hp, rfl⟩
      · exact hbuilt t ht
      · exact hnew c List.mem_cons_self g hg
      · exact hold c List.mem_cons_self g hg u (Bool.and_eq_true_iff.mp hp).2 (hbuilt u hu)

lemma leaves_of_no_group (hc : c.Publishable) (hg : c.group = none) : c.app.leaves = [c.leaf] := by
  have hs : c.subgroup = none := by
    cases hs : c.subgroup with
    | none => rfl
    | some s => simpa [hg] using hc.group_of_subgroup hs
  rw [AppCommand.leaves_of_not_isGroup hc.not_isGroup]
  simp [AppCommand.leafAt, leaf, hg, hs]

lemma leaves_publish (built : List AppCommand) (hc : c.Publishable) :
    ((publish built c).flatMap AppCommand.leaves).Perm
      (built.flatMap AppCommand.leaves ++ [c.leaf]) := by
  cases hg : c.group with
  | none => simp [publish, hg, leaves_of_no_group hc hg]
  | some g =>
    have hk : c.app.kind = .chatInput := hc.kind_of_group hg
    simp only [publish, hg]
    refine flatMap_updateFirst_perm (fun t ht => ?_) ?_
    · simp only [Bool.and_eq_true, beq_iff_eq] at ht
      obtain ⟨⟨⟨hn, hguild⟩, hkind⟩, hgroup⟩ := ht
      exact leaves_addTo (by simp [hg, hn]) hguild.symm (by rw [hk, hkind]) hgroup
    · exact leaves_addTo_empty (by rw [hg]; rfl) rfl hk rfl

lemma leaves_foldl_publish (built : List AppCommand) (hcs : ∀ c ∈ cs, c.Publishable) :
    ((cs.foldl publish built).flatMap AppCommand.leaves).Perm
      (built.flatMap AppCommand.leaves ++ cs.map leaf) := by
  induction cs generalizing built with
  | nil => simp
  | cons c cs ih =>
    have hrest := ih (publish built c) fun d hd => hcs d (List.mem_cons_of_mem _ hd)
    have hstep := (leaves_publish built (hcs c List.mem_cons_self)).append_right (cs.map leaf)
    simpa using hrest.trans hstep

end RegisteredCommand

namespace Registry

def Flat (r : Registry) : Prop :=
  ∀ c ∈ r.commands, ∀ o ∈ c.app.options.getD [], o.kind.isNesting = false

variable {r : Registry}

lemma Reachable.publishable (h : r.Reachable) (hflat : r.Flat) :
    ∀ c ∈ r.commands, c.Publishable := fun c hc =>
  ⟨h.kind_of_group hc, h.group_of_subgroup hc, AppCommand.isGroup_of_options (hflat c hc)⟩

lemma Reachable.published_kind (h : r.Reachable) :
    ∀ t ∈ r.published, t.kind ∈ [.chatInput, .user, .message] := by
  refine RegisteredCommand.forall_foldl_publish [] (fun c hc _ => h.kind_mem hc) ?_ ?_ (by simp)
  · intro c _ g _
    rw [RegisteredCommand.addTo_eq]
    exact List.mem_cons_self
  · intro c _ _ _ t _ ht
    rw [RegisteredCommand.addTo_eq]
    exact ht

theorem Reachable.leaves_published (h : r.Reachable) (hflat : r.Flat) :
    (r.published.flatMap AppCommand.leaves).Perm (r.commands.map RegisteredCommand.leaf) :=
  RegisteredCommand.leaves_foldl_publish [] (h.publishable hflat)

lemma Reachable.exists_route (h : r.Reachable) (hflat : r.Flat) {c : RegisteredCommand}
    (hc : c ∈ r.commands) : ∃ t ∈ r.published, ∃ route ∈ t.routes, t.leafAt route = c.leaf := by
  have hmem := (h.leaves_published hflat).mem_iff.mpr (List.mem_map_of_mem hc)
  obtain ⟨t, ht, hl⟩ := List.mem_flatMap.mp hmem
  obtain ⟨route, hroute, heq⟩ := List.mem_map.mp hl
  exact ⟨t, ht, route, hroute, heq⟩

lemma Reachable.exists_command (h : r.Reachable) (hflat : r.Flat) {t : AppCommand} {route : Route}
    (ht : t ∈ r.published) (hroute : route ∈ t.routes) :
    ∃ c ∈ r.commands, c.leaf = t.leafAt route :=
  List.mem_map.mp ((h.leaves_published hflat).mem_iff.mp
    (List.mem_flatMap.mpr ⟨t, ht, List.mem_map_of_mem hroute⟩))

end Registry

end DiscordBot
