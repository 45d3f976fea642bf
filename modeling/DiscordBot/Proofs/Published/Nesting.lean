import DiscordBot.Proofs.Published.Names

/-! Nesting keeps the commands of a registry: below each parent they stand in the order of their
registration, and there is one parent of each name. -/

namespace DiscordBot

section Lists

variable {α β : Type} {p : α → Bool} {xs : List α}

lemma filter_flatMap_updateFirst {f : α → α} {new : α} {L : α → List β} {q : β → Bool} {ys : List β}
    (hf : ∀ x ∈ xs, p x = true → (L (f x)).filter q = (L x).filter q ++ ys)
    (hnew : (L (f new)).filter q = ys)
    (hafter : ys ≠ [] → xs.Pairwise fun x y => p x = true → (L y).filter q = []) :
    ((updateFirst p f new xs).flatMap L).filter q = (xs.flatMap L).filter q ++ ys := by
  induction xs with
  | nil => simpa [updateFirst] using hnew
  | cons x xs ih =>
    by_cases hx : p x = true
    · have hfirst := hf x List.mem_cons_self hx
      -- What is added stands at the end, since nothing behind `x` passes.
      have hrest : ys ++ (xs.flatMap L).filter q = (xs.flatMap L).filter q ++ ys := by
        by_cases hys : ys = []
        · simp [hys]
        · have hnone := (List.pairwise_cons.mp (hafter hys)).1
          have hempty : (xs.flatMap L).filter q = [] := by
            rw [List.filter_flatMap, List.flatMap_eq_nil_iff]
            intro y hy
            exact hnone y hy hx
          simp [hempty]
      rw [updateFirst, if_pos hx, List.flatMap_cons, List.flatMap_cons, List.filter_append,
        List.filter_append, hfirst, List.append_assoc, List.append_assoc, hrest]
    · have hbehind := ih (fun y hy => hf y (List.mem_cons_of_mem _ hy))
        fun hys => (List.pairwise_cons.mp (hafter hys)).2
      rw [updateFirst, if_neg hx, List.flatMap_cons, List.flatMap_cons, List.filter_append,
        List.filter_append, hbehind, List.append_assoc]

lemma countP_of_pairwise (h : xs.Pairwise fun x y => p x = true → p y = false) :
    xs.countP p = if xs.any p then 1 else 0 := by
  induction xs with
  | nil => rfl
  | cons x xs ih =>
    obtain ⟨hx, hxs⟩ := List.pairwise_cons.mp h
    by_cases hp : p x = true
    · have hnone : xs.countP p = 0 := by
        apply List.countP_eq_zero.mpr
        intro y hy
        simp [hx y hy hp]
      simp [hp, hnone]
    · simp [hp, ih hxs]

end Lists

namespace Leaf

def parent (l : Leaf) : Option (String × Option Snowflake × Option String) :=
  l.group.map fun g => (g, l.guildId, l.subgroup)

end Leaf

namespace AppCommand

variable {t : AppCommand} {l : Leaf} {g : String} {guildId : Option Snowflake} {s : Option String}

lemma group_of_leaf (hl : l ∈ t.leaves) (hp : l.parent = some (g, guildId, s)) :
    t.isGroup = true ∧ (t.name, t.guildId) = (g, guildId) := by
  obtain ⟨route, hroute, rfl⟩ := List.mem_map.mp hl
  cases route with
  | self => simp [Leaf.parent, leafAt] at hp
  | command o =>
    have hp : t.name = g ∧ t.guildId = guildId ∧ none = s := by simpa [Leaf.parent, leafAt] using hp
    exact ⟨(command_mem_routes.mp hroute).1, by rw [hp.1, hp.2.1]⟩
  | nested q o =>
    have hp : t.name = g ∧ t.guildId = guildId ∧ some q.name = s := by
      simpa [Leaf.parent, leafAt] using hp
    exact ⟨(nested_mem_routes.mp hroute).1, by rw [hp.1, hp.2.1]⟩

lemma subgroup_of_leaf {o : CommandOption} (hl : l ∈ o.routes.map t.leafAt)
    (hp : l.parent = some (g, guildId, s)) :
    o.kind = .subCommand ∧ s = none ∨ o.kind = .subCommandGroup ∧ s = some o.name := by
  obtain ⟨route, hroute, rfl⟩ := List.mem_map.mp hl
  unfold CommandOption.routes at hroute
  split at hroute
  · rename_i hk
    obtain rfl := List.mem_singleton.mp hroute
    exact Or.inl ⟨hk, by simp_all [Leaf.parent, leafAt]⟩
  · rename_i hk
    obtain ⟨q, -, rfl⟩ := List.mem_map.mp hroute
    exact Or.inr ⟨hk, by simp_all [Leaf.parent, leafAt]⟩
  · simp at hroute

end AppCommand

namespace RegisteredCommand

variable {c : RegisteredCommand} {t : AppCommand} {os : List CommandOption}
  {p : Option (String × Option Snowflake × Option String)}

instance : Decidable (c.InGroup t) := inferInstanceAs (Decidable (_ ∧ _))

section Group

variable (hgroup : c.group.map (·.name) = some t.name) (hguild : c.app.guildId = t.guildId)
  (hkind : c.app.kind = t.kind)

include hgroup hguild hkind

lemma siblings_nestIn
    (hos : os.Pairwise fun a b =>
      a.kind = .subCommandGroup → b.kind = .subCommandGroup → a.name ≠ b.name) :
    (t.nestedLeaves (c.nestIn os)).filter (fun l => l.parent == p) =
      (t.nestedLeaves os).filter (fun l => l.parent == p) ++
        [c.leaf].filter fun l => l.parent == p := by
  cases hs : c.subgroup with
  | none =>
    have hroutes : c.nested.routes = [.command c.nested] := rfl
    simp [nestIn, hs, AppCommand.nestedLeaves, hroutes, leafAt_command hgroup hguild hkind hs]
  | some s =>
    simp only [nestIn, hs]
    apply filter_flatMap_updateFirst
    · intro o _ ho
      obtain ⟨hk, hn⟩ : o.kind = .subCommandGroup ∧ o.name = s.name := by simpa using ho
      rw [routes_addOption hgroup hguild hkind hs hn hk, List.filter_append]
    · rw [routes_addOption hgroup hguild hkind (o := s.published) hs rfl rfl]
      rfl
    · intro hys
      have hp : c.leaf.parent = p := by simpa using hys
      refine hos.imp fun {a b} hab ha => ?_
      obtain ⟨hak, han⟩ : a.kind = .subCommandGroup ∧ a.name = s.name := by simpa using ha
      apply List.filter_eq_nil_iff.mpr
      intro l hl hlp
      have hlp : l.parent = some (t.name, c.app.guildId, some s.name) := by
        rw [beq_iff_eq.mp hlp, ← hp]
        simp [Leaf.parent, leaf, hgroup, hs]
      rcases AppCommand.subgroup_of_leaf hl hlp with ⟨-, hnone⟩ | ⟨hbk, hbn⟩
      · cases hnone
      · exact hab hak hbk (han.trans (Option.some.inj hbn))

lemma siblings_addTo (ht : t.isGroup = true) (hos : GroupOptions (t.options.getD [])) :
    (c.addTo t).leaves.filter (fun l => l.parent == p) =
      t.leaves.filter (fun l => l.parent == p) ++ [c.leaf].filter fun l => l.parent == p := by
  rw [AppCommand.leaves_of_isGroup (isGroup_addTo (Or.inl ht)), AppCommand.leaves_of_isGroup ht,
    addTo_eq, AppCommand.nestedLeaves_with_options]
  exact siblings_nestIn hgroup hguild hkind hos.subgroups

lemma siblings_addTo_empty (ht : t.options = some []) :
    (c.addTo t).leaves.filter (fun l => l.parent == p) = [c.leaf].filter fun l => l.parent == p := by
  rw [AppCommand.leaves_of_isGroup (isGroup_addTo (Or.inr ht)), addTo_eq,
    AppCommand.nestedLeaves_with_options, ht]
  exact siblings_nestIn hgroup hguild hkind .nil

end Group

variable {built : List AppCommand} {cs : List RegisteredCommand}

lemma siblings_publish (hc : c.Publishable) (h : GroupsFormed built) :
    ((publish built c).flatMap AppCommand.leaves).filter (fun l => l.parent == p) =
      (built.flatMap AppCommand.leaves).filter (fun l => l.parent == p) ++
        [c.leaf].filter fun l => l.parent == p := by
  cases hg : c.group with
  | none =>
    have hleaf : c.app.leaves = [c.leaf] := leaves_of_no_group hc hg
    simp [publish, hg, hleaf]
  | some g =>
    have hk : c.app.kind = .chatInput := hc.kind_of_group hg
    simp only [publish, hg]
    apply filter_flatMap_updateFirst
    · intro t ht hmatch
      simp only [Bool.and_eq_true, beq_iff_eq] at hmatch
      obtain ⟨⟨⟨hn, hguild⟩, hkind⟩, hgroup⟩ := hmatch
      exact siblings_addTo (by simp [hg, hn]) hguild.symm (by rw [hk, hkind]) hgroup
        (h.options t ht hgroup)
    · exact siblings_addTo_empty (by rw [hg]; rfl) rfl hk rfl
    · intro hys
      have hp : c.leaf.parent = p := by simpa using hys
      refine h.distinct.imp fun {a b} hab ha => ?_
      simp only [Bool.and_eq_true, beq_iff_eq] at ha
      obtain ⟨⟨⟨hn, hguild⟩, -⟩, hgroup⟩ := ha
      apply List.filter_eq_nil_iff.mpr
      intro l hl hlp
      have hlp : l.parent = some (g.name, c.app.guildId, c.subgroup.map (·.name)) := by
        rw [beq_iff_eq.mp hlp, ← hp]
        simp [Leaf.parent, leaf, hg]
      obtain ⟨hbgroup, hb⟩ := AppCommand.group_of_leaf hl hlp
      exact hab hgroup hbgroup (by rw [hn, hguild, hb])

lemma siblings_foldl_publish (hcs : ∀ c ∈ cs, c.Publishable) (h : GroupsFormed built) :
    ((cs.foldl publish built).flatMap AppCommand.leaves).filter (fun l => l.parent == p) =
      (built.flatMap AppCommand.leaves).filter (fun l => l.parent == p) ++
        (cs.map leaf).filter fun l => l.parent == p := by
  induction cs generalizing built with
  | nil => simp
  | cons c cs ih =>
    have hc : c.Publishable := hcs c List.mem_cons_self
    have hrest := ih (fun d hd => hcs d (List.mem_cons_of_mem _ hd)) (groupsFormed_publish hc h)
    have hmap : (c :: cs).map leaf = [c.leaf] ++ cs.map leaf := rfl
    rw [List.foldl_cons, hrest, siblings_publish hc h, List.append_assoc, ← List.filter_append, hmap]

end RegisteredCommand

namespace Registry

variable {r : Registry} {t : AppCommand}

lemma Reachable.siblings (h : r.Reachable) (hflat : r.Flat)
    (p : Option (String × Option Snowflake × Option String)) :
    (r.published.flatMap AppCommand.leaves).filter (fun l => l.parent == p) =
      (r.commands.map RegisteredCommand.leaf).filter fun l => l.parent == p :=
  RegisteredCommand.siblings_foldl_publish (h.publishable hflat) ⟨by simp, by simp, .nil⟩

lemma Reachable.countP_group (h : r.Reachable) (hflat : r.Flat) (name : String)
    (guildId : Option Snowflake) :
    r.published.countP (fun t => t.isGroup && t.name == name && t.guildId == guildId) =
      if ∃ c ∈ r.commands, c.group.map (·.name) = some name ∧ c.app.guildId = guildId
        then 1 else 0 := by
  rw [countP_of_pairwise]
  · refine if_congr ?_ rfl rfl
    rw [List.any_eq_true]
    constructor
    · rintro ⟨t, ht, hmatch⟩
      obtain ⟨⟨hgroup, rfl⟩, rfl⟩ : (t.isGroup = true ∧ t.name = name) ∧ t.guildId = guildId := by
        simpa using hmatch
      obtain ⟨c, hc, hin, -⟩ := h.exists_member hflat ht hgroup
      exact ⟨c, hc, hin⟩
    · rintro ⟨c, hc, hname, rfl⟩
      obtain ⟨t, ht, hgroup, htname, -, hguild, -⟩ := h.exists_group hflat hc hname
      exact ⟨t, ht, by simp [hgroup, htname, hguild]⟩
  · refine (h.groupsFormed hflat).distinct.imp fun {a b} hab ha => ?_
    obtain ⟨⟨hagroup, rfl⟩, rfl⟩ : (a.isGroup = true ∧ a.name = name) ∧ a.guildId = guildId := by
      simpa using ha
    rw [← Bool.not_eq_true]
    intro hb
    obtain ⟨⟨hbgroup, hname⟩, hguild⟩ : (b.isGroup = true ∧ b.name = a.name) ∧ b.guildId = a.guildId := by
      simpa using hb
    exact hab hagroup hbgroup (by rw [hname, hguild])

lemma Reachable.countP_subgroup (h : r.Reachable) (hflat : r.Flat) (ht : t ∈ r.published)
    (hgroup : t.isGroup = true) (name : String) :
    (t.options.getD []).countP (fun o => o.kind == .subCommandGroup && o.name == name) =
      if ∃ c ∈ r.commands, c.InGroup t ∧ c.subgroup.map (·.name) = some name then 1 else 0 := by
  rw [countP_of_pairwise]
  · refine if_congr ?_ rfl rfl
    rw [← h.subCommandGroup_iff hflat ht hgroup name, List.any_eq_true]
    simp only [Bool.and_eq_true, beq_iff_eq]
  · refine ((h.groupsFormed hflat).options t ht hgroup).subgroups.imp fun {a b} hab ha => ?_
    obtain ⟨hak, rfl⟩ : a.kind = .subCommandGroup ∧ a.name = name := by simpa using ha
    rw [← Bool.not_eq_true]
    intro hb
    obtain ⟨hbk, hname⟩ : b.kind = .subCommandGroup ∧ b.name = a.name := by simpa using hb
    exact hab hak hbk hname.symm

/-- The published commands lead to the commands of the registry, to each of them once. Those that share
their parent stand in the order of their registration. There is one group of each name and guild that has
a command in it, and in that group one group of each name that has one. -/
theorem published_nesting (h : r.Reachable) (hflat : r.Flat) :
    (r.published.flatMap AppCommand.leaves).Perm (r.commands.map RegisteredCommand.leaf) ∧
    (∀ parent, (r.published.flatMap AppCommand.leaves).filter (fun l => l.parent == parent) =
      (r.commands.map RegisteredCommand.leaf).filter fun l => l.parent == parent) ∧
    (∀ name guildId,
      r.published.countP (fun t => t.isGroup && t.name == name && t.guildId == guildId) =
        if ∃ c ∈ r.commands, c.group.map (·.name) = some name ∧ c.app.guildId = guildId
          then 1 else 0) ∧
    ∀ t ∈ r.published, t.isGroup = true → ∀ name,
      (t.options.getD []).countP (fun o => o.kind == .subCommandGroup && o.name == name) =
        if ∃ c ∈ r.commands, c.InGroup t ∧ c.subgroup.map (·.name) = some name then 1 else 0 :=
  ⟨h.leaves_published hflat, h.siblings hflat, h.countP_group hflat, fun _ ht hgroup =>
    h.countP_subgroup hflat ht hgroup⟩

def jukebox : Registry :=
  let music : Group := { name := "music" }
  let queue : Parent := .subgroup { name := "queue", parent := music }
  let declare (name : String) (parent : Option Parent) (guild : Option String) : Declaration :=
    { Declaration.chatInput name with
      handler := some fun _ _ => .ok .none, parent := parent, guild := guild }
  registerAll [
    declare "clear" (some queue) none, declare "ping" none none, declare "add" (some queue) (some "7"),
    declare "play" (some (.group music)) none, declare "add" (some queue) none]

lemma jukebox_reachable : jukebox.Reachable := reachable_registerAll (by simp [Declaration.chatInput])

lemma jukebox_flat : jukebox.Flat := by
  unfold Flat
  decide

theorem jukebox_published_nesting :
    (jukebox.published.flatMap AppCommand.leaves).length = 5 ∧
    ((jukebox.published.flatMap AppCommand.leaves).filter fun l =>
      l.parent == some ("music", none, some "queue")).map (·.name) = ["clear", "add"] ∧
    jukebox.published.countP
      (fun t => t.isGroup && t.name == "music" && t.guildId == none) = 1 := by
  obtain ⟨hperm, hsiblings, hgroups, -⟩ := published_nesting jukebox_reachable jukebox_flat
  refine ⟨?_, ?_, ?_⟩
  · rw [hperm.length_eq]
    rfl
  · rw [hsiblings]
    decide
  · rw [hgroups]
    decide

end Registry

end DiscordBot
