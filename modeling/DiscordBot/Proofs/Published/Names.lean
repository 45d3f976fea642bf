import DiscordBot.Proofs.Published.Groups

/-! Names of published commands. Those of one guild and kind differ, except that a command that is
called by itself may have the name of a group; inside a group a command may have the name of a group in
it. -/

namespace DiscordBot

def AppCommand.upsertKey (t : AppCommand) : String × CommandType × Option Snowflake :=
  (t.name, t.kind, t.guildId)

def Leaf.key (l : Leaf) : CommandKey := ⟨l.name, l.guildId, l.kind, l.group, l.subgroup⟩

@[simp] lemma RegisteredCommand.leaf_key (c : RegisteredCommand) : c.leaf.key = c.key := rfl

namespace Registry

variable {r : Registry} {t : AppCommand}

lemma Reachable.nodup_leaf_keys (h : r.Reachable) (hflat : r.Flat) :
    (r.published.flatMap fun t => t.leaves.map Leaf.key).Nodup := by
  have hperm := (h.leaves_published hflat).map Leaf.key
  rw [List.map_flatMap, List.map_map] at hperm
  exact hperm.nodup_iff.mpr h.nodup_keys

lemma Reachable.plain_upsertKeys (h : r.Reachable) (hflat : r.Flat) :
    r.published.Pairwise fun a b =>
      a.isGroup = false → b.isGroup = false → a.upsertKey ≠ b.upsertKey := by
  refine (List.nodup_flatMap.mp (h.nodup_leaf_keys hflat)).2.imp ?_
  intro a b hdisjoint ha hb heq
  simp only [AppCommand.upsertKey, Prod.mk.injEq] at heq
  obtain ⟨hname, hkind, hguild⟩ := heq
  simp [Function.onFun, AppCommand.leaves_of_not_isGroup, ha, hb, AppCommand.leafAt, Leaf.key,
    hname, hkind, hguild] at hdisjoint

lemma Reachable.nodup_upsertKey_isGroup (h : r.Reachable) (hflat : r.Flat) :
    (r.published.map fun t => (t.upsertKey, t.isGroup)).Nodup := by
  refine List.pairwise_map.mpr ?_
  refine ((h.plain_upsertKeys hflat).and (h.groupsFormed hflat).distinct).imp ?_
  rintro a b ⟨hplain, hgroup⟩ heq
  obtain ⟨hkey, hb⟩ := Prod.mk.inj heq
  cases ha : a.isGroup with
  | false => exact hplain ha (hb ▸ ha) hkey
  | true =>
    simp only [AppCommand.upsertKey, Prod.mk.injEq] at hkey
    exact hgroup ha (hb ▸ ha) (by rw [hkey.1, hkey.2.2])

lemma Reachable.plain_iff (h : r.Reachable) (hflat : r.Flat)
    (key : String × CommandType × Option Snowflake) :
    (∃ t ∈ r.published, t.isGroup = false ∧ t.upsertKey = key) ↔
      ∃ c ∈ r.commands, c.group = none ∧ c.app.upsertKey = key := by
  constructor
  · rintro ⟨t, ht, hplain, rfl⟩
    obtain ⟨c, hc, hl⟩ := h.exists_command hflat ht (AppCommand.self_mem_routes.mpr hplain)
    obtain ⟨hgroup, hname⟩ := RegisteredCommand.name_of_self hl.symm
    refine ⟨c, hc, hgroup, ?_⟩
    rw [AppCommand.upsertKey, hname, RegisteredCommand.kind_of_leaf hl.symm,
      RegisteredCommand.guildId_of_leaf hl.symm, AppCommand.upsertKey]
  · rintro ⟨c, hc, hgroup, rfl⟩
    obtain ⟨t, ht, route, hroute, hl⟩ := h.exists_route hflat hc
    obtain rfl := RegisteredCommand.eq_self_of_leaf hl hgroup
    refine ⟨t, ht, AppCommand.self_mem_routes.mp hroute, ?_⟩
    rw [AppCommand.upsertKey, AppCommand.upsertKey, (RegisteredCommand.name_of_self hl).2,
      RegisteredCommand.kind_of_leaf hl, RegisteredCommand.guildId_of_leaf hl]

-- The first option of a group is a command or a group with a command in it.
lemma Reachable.exists_member (h : r.Reachable) (hflat : r.Flat) (ht : t ∈ r.published)
    (hgroup : t.isGroup = true) : ∃ c ∈ r.commands, c.InGroup t ∧ c.app.kind = t.kind := by
  have hos := (h.groupsFormed hflat).options t ht hgroup
  obtain ⟨o, os, ho⟩ := List.exists_cons_of_ne_nil hos.ne_nil
  have hmem : o ∈ t.options.getD [] := by simp [ho]
  have hroute : ∃ route ∈ t.routes, route ≠ .self := by
    rcases OptionType.isNesting_iff.mp (hos.isNesting o hmem) with hk | hk
    · exact ⟨.command o, AppCommand.command_mem_routes.mpr ⟨hgroup, hmem, hk⟩, nofun⟩
    · obtain ⟨q, qs, hq⟩ := List.exists_cons_of_ne_nil (hos.filled o hmem hk)
      have hqmem : q ∈ o.options.getD [] := by simp [hq]
      exact ⟨.nested o q, AppCommand.nested_mem_routes.mpr
        ⟨hgroup, hmem, hk, hqmem, hos.subCommands o hmem hk q hqmem⟩, nofun⟩
  obtain ⟨route, hroute, hne⟩ := hroute
  obtain ⟨c, hc, hl⟩ := h.exists_command hflat ht hroute
  exact ⟨c, hc, RegisteredCommand.inGroup_of_leaf hl.symm hne,
    RegisteredCommand.kind_of_leaf hl.symm⟩

lemma Reachable.exists_group (h : r.Reachable) (hflat : r.Flat) {c : RegisteredCommand}
    (hc : c ∈ r.commands) {name : String} (hname : c.group.map (·.name) = some name) :
    ∃ t ∈ r.published, t.isGroup = true ∧ t.name = name ∧ c.app.kind = t.kind ∧
      c.app.guildId = t.guildId ∧ ∃ route ∈ t.routes, t.leafAt route = c.leaf := by
  obtain ⟨t, ht, route, hroute, hl⟩ := h.exists_route hflat hc
  have hne := RegisteredCommand.ne_self_of_group hl hname
  have hin := RegisteredCommand.inGroup_of_leaf hl hne
  refine ⟨t, ht, AppCommand.isGroup_of_mem_routes hroute hne, ?_, RegisteredCommand.kind_of_leaf hl,
    hin.2, route, hroute, hl⟩
  exact Option.some.inj (hin.1.symm.trans hname)

lemma Reachable.group_iff (h : r.Reachable) (hflat : r.Flat)
    (key : String × CommandType × Option Snowflake) :
    (∃ t ∈ r.published, t.isGroup = true ∧ t.upsertKey = key) ↔
      ∃ c ∈ r.commands, c.group.map (·.name) = some key.1 ∧ c.app.kind = key.2.1 ∧
        c.app.guildId = key.2.2 := by
  constructor
  · rintro ⟨t, ht, hgroup, rfl⟩
    obtain ⟨c, hc, ⟨hname, hguild⟩, hkind⟩ := h.exists_member hflat ht hgroup
    exact ⟨c, hc, hname, hkind, hguild⟩
  · rintro ⟨c, hc, hname, hkind, hguild⟩
    obtain ⟨t, ht, hgroup, htname, htkind, htguild, -⟩ := h.exists_group hflat hc hname
    refine ⟨t, ht, hgroup, ?_⟩
    rw [AppCommand.upsertKey, htname, ← htkind, ← htguild, hkind, hguild]

lemma Reachable.nodup_upsertKey_iff (h : r.Reachable) (hflat : r.Flat) :
    (r.published.map AppCommand.upsertKey).Nodup ↔
      ∀ c ∈ r.commands, c.group = none → c.app.kind = .chatInput →
        ∀ d ∈ r.commands, d.group.map (·.name) = some c.app.name → d.app.guildId ≠ c.app.guildId := by
  constructor
  · intro hnodup c hc hnone hkind d hd hname hguild
    obtain ⟨t, ht, hplain, htk⟩ := (h.plain_iff hflat _).mpr ⟨c, hc, hnone, rfl⟩
    obtain ⟨g, hg, -⟩ := Option.map_eq_some_iff.mp hname
    obtain ⟨u, hu, hgroup, huk⟩ := (h.group_iff hflat c.app.upsertKey).mpr
      ⟨d, hd, hname, (h.kind_of_group hd hg).trans hkind.symm, hguild⟩
    have htu := List.inj_on_of_nodup_map hnodup ht hu (htk.trans huk.symm)
    rw [htu, hgroup] at hplain
    cases hplain
  · intro hfree
    refine List.pairwise_map.mpr ?_
    refine (List.pairwise_map.mp (h.nodup_upsertKey_isGroup hflat)).imp_of_mem ?_
    -- Only a command that is called by itself and a group can share a key.
    have hne : ∀ t ∈ r.published, ∀ u ∈ r.published, t.isGroup = false → u.isGroup = true →
        t.upsertKey ≠ u.upsertKey := by
      intro t ht u hu hplain hgroup heq
      obtain ⟨c, hc, hnone, hck⟩ := (h.plain_iff hflat _).mp ⟨t, ht, hplain, heq⟩
      obtain ⟨d, hd, hname, hkind, hguild⟩ := (h.group_iff hflat _).mp ⟨u, hu, hgroup, hck.symm⟩
      have hchat : u.kind = .chatInput := (h.groupsFormed hflat).kind u hu hgroup
      have hck : c.app.kind = u.kind := congrArg (fun k => k.2.1) hck
      exact hfree c hc hnone (hck.trans hchat) d hd hname hguild
    intro t u ht hu hslot hkey
    cases htg : t.isGroup <;> cases hug : u.isGroup
    · exact hslot (by rw [hkey, htg, hug])
    · exact hne t ht u hu htg hug hkey
    · exact hne u hu t ht hug htg hkey.symm
    · exact hslot (by rw [hkey, htg, hug])

lemma Reachable.exists_route_in (h : r.Reachable) (hflat : r.Flat) (ht : t ∈ r.published)
    (hgroup : t.isGroup = true) {c : RegisteredCommand} (hc : c ∈ r.commands) (hin : c.InGroup t) :
    ∃ route ∈ t.routes, t.leafAt route = c.leaf := by
  obtain ⟨u, hu, hugroup, hname, hkind, hguild, hroute⟩ := h.exists_group hflat hc hin.1
  have hut : u = t := by
    refine List.inj_on_of_nodup_map (h.nodup_upsertKey_isGroup hflat) hu ht ?_
    have hkinds : u.kind = t.kind := ((h.groupsFormed hflat).kind u hu hugroup).trans
      ((h.groupsFormed hflat).kind t ht hgroup).symm
    rw [AppCommand.upsertKey, AppCommand.upsertKey, hugroup, hgroup, hname, hkinds, ← hguild, hin.2]
  exact hut ▸ hroute

lemma Reachable.subCommand_iff (h : r.Reachable) (hflat : r.Flat) (ht : t ∈ r.published)
    (hgroup : t.isGroup = true) (name : String) :
    (∃ o ∈ t.options.getD [], o.kind = .subCommand ∧ o.name = name) ↔
      ∃ c ∈ r.commands, c.InGroup t ∧ c.subgroup = none ∧ c.app.name = name := by
  constructor
  · rintro ⟨o, ho, hk, rfl⟩
    obtain ⟨c, hc, hl⟩ := h.exists_command hflat ht
      (AppCommand.command_mem_routes.mpr ⟨hgroup, ho, hk⟩)
    exact ⟨c, hc, RegisteredCommand.inGroup_of_leaf hl.symm nofun,
      RegisteredCommand.name_of_command hl.symm⟩
  · rintro ⟨c, hc, hin, hsub, rfl⟩
    obtain ⟨route, hroute, hl⟩ := h.exists_route_in hflat ht hgroup hc hin
    cases route with
    | self => exact absurd rfl (RegisteredCommand.ne_self_of_group hl hin.1)
    | command o =>
      obtain ⟨-, ho, hk⟩ := AppCommand.command_mem_routes.mp hroute
      exact ⟨o, ho, hk, (RegisteredCommand.name_of_command hl).2.symm⟩
    | nested s o =>
      have hsome := (RegisteredCommand.name_of_nested hl).1
      rw [hsub] at hsome
      cases hsome

lemma Reachable.subCommandGroup_iff (h : r.Reachable) (hflat : r.Flat) (ht : t ∈ r.published)
    (hgroup : t.isGroup = true) (name : String) :
    (∃ o ∈ t.options.getD [], o.kind = .subCommandGroup ∧ o.name = name) ↔
      ∃ c ∈ r.commands, c.InGroup t ∧ c.subgroup.map (·.name) = some name := by
  have hos := (h.groupsFormed hflat).options t ht hgroup
  constructor
  · rintro ⟨s, hs, hk, rfl⟩
    obtain ⟨o, os, ho⟩ := List.exists_cons_of_ne_nil (hos.filled s hs hk)
    have hmem : o ∈ s.options.getD [] := by simp [ho]
    obtain ⟨c, hc, hl⟩ := h.exists_command hflat ht (AppCommand.nested_mem_routes.mpr
      ⟨hgroup, hs, hk, hmem, hos.subCommands s hs hk o hmem⟩)
    exact ⟨c, hc, RegisteredCommand.inGroup_of_leaf hl.symm nofun,
      (RegisteredCommand.name_of_nested hl.symm).1⟩
  · rintro ⟨c, hc, hin, hsub⟩
    obtain ⟨route, hroute, hl⟩ := h.exists_route_in hflat ht hgroup hc hin
    cases route with
    | self => exact absurd rfl (RegisteredCommand.ne_self_of_group hl hin.1)
    | command o =>
      rw [(RegisteredCommand.name_of_command hl).1] at hsub
      cases hsub
    | nested s o =>
      obtain ⟨-, hs, hk, -⟩ := AppCommand.nested_mem_routes.mp hroute
      have hname := (RegisteredCommand.name_of_nested hl).1.symm.trans hsub
      exact ⟨s, hs, hk, Option.some.inj hname⟩

lemma Reachable.nodup_kind_name (h : r.Reachable) (hflat : r.Flat) (ht : t ∈ r.published)
    (hgroup : t.isGroup = true) :
    ((t.options.getD []).map fun o => (o.kind, o.name)).Nodup := by
  have hos := (h.groupsFormed hflat).options t ht hgroup
  have hkeys := (List.nodup_flatMap.mp (h.nodup_leaf_keys hflat)).1 t ht
  rw [AppCommand.leaves_of_isGroup hgroup, AppCommand.nestedLeaves, List.map_flatMap] at hkeys
  refine List.pairwise_map.mpr ?_
  refine ((List.nodup_flatMap.mp hkeys).2.and hos.subgroups).imp_of_mem ?_
  rintro a b ha - ⟨hdisjoint, hsub⟩ heq
  obtain ⟨hk, hname⟩ := Prod.mk.inj heq
  rcases OptionType.isNesting_iff.mp (hos.isNesting a ha) with hka | hka
  · simp [Function.onFun, CommandOption.routes, hka, ← hk, AppCommand.leafAt, Leaf.key,
      hname] at hdisjoint
  · exact hsub hka (hk ▸ hka) hname

lemma Reachable.nodup_names_in_subgroup (h : r.Reachable) (hflat : r.Flat) (ht : t ∈ r.published)
    (hgroup : t.isGroup = true) {s : CommandOption} (hs : s ∈ t.options.getD [])
    (hk : s.kind = .subCommandGroup) : ((s.options.getD []).map (·.name)).Nodup := by
  have hos := (h.groupsFormed hflat).options t ht hgroup
  have hkeys := (List.nodup_flatMap.mp (h.nodup_leaf_keys hflat)).1 t ht
  rw [AppCommand.leaves_of_isGroup hgroup, AppCommand.nestedLeaves, List.map_flatMap] at hkeys
  have hs := (List.nodup_flatMap.mp hkeys).1 s hs
  have hall : (s.options.getD []).filter (fun q => q.kind == .subCommand) = s.options.getD [] :=
    List.filter_eq_self.mpr fun q hq => by simp [hos.subCommands s ‹_› hk q hq]
  simp only [CommandOption.routes, hk, hall, List.map_map] at hs
  refine List.Nodup.of_map (fun name => (⟨name, t.guildId, t.kind, some t.name, some s.name⟩ : CommandKey)) ?_
  rw [List.map_map]
  exact hs

lemma Reachable.nodup_names_iff (h : r.Reachable) (hflat : r.Flat) (ht : t ∈ r.published)
    (hgroup : t.isGroup = true) :
    ((t.options.getD []).map (·.name)).Nodup ↔
      ∀ c ∈ r.commands, c.InGroup t → c.subgroup = none →
        ∀ d ∈ r.commands, d.InGroup t → d.subgroup.map (·.name) ≠ some c.app.name := by
  have hos := (h.groupsFormed hflat).options t ht hgroup
  constructor
  · intro hnodup c hc hcin hsub d hd hdin hname
    obtain ⟨o, ho, hok, hon⟩ := (h.subCommand_iff hflat ht hgroup _).mpr ⟨c, hc, hcin, hsub, rfl⟩
    obtain ⟨s, hs, hsk, hsn⟩ := (h.subCommandGroup_iff hflat ht hgroup _).mpr ⟨d, hd, hdin, hname⟩
    have hos := List.inj_on_of_nodup_map hnodup ho hs (hon.trans hsn.symm)
    rw [hos, hsk] at hok
    cases hok
  · intro hfree
    have hne : ∀ a ∈ t.options.getD [], ∀ b ∈ t.options.getD [],
        a.kind = .subCommand → b.kind = .subCommandGroup → a.name ≠ b.name := by
      intro a ha b hb hak hbk heq
      obtain ⟨c, hc, hcin, hsub, hcn⟩ := (h.subCommand_iff hflat ht hgroup _).mp ⟨a, ha, hak, rfl⟩
      obtain ⟨d, hd, hdin, hdn⟩ := (h.subCommandGroup_iff hflat ht hgroup _).mp ⟨b, hb, hbk, heq.symm⟩
      exact hfree c hc hcin hsub d hd hdin (by rw [hdn, hcn])
    refine List.pairwise_map.mpr ?_
    refine (List.pairwise_map.mp (h.nodup_kind_name hflat ht hgroup)).imp_of_mem ?_
    intro a b ha hb hpair hname
    rcases OptionType.isNesting_iff.mp (hos.isNesting a ha) with hak | hak <;>
      rcases OptionType.isNesting_iff.mp (hos.isNesting b hb) with hbk | hbk
    · exact hpair (by rw [hak, hbk, hname])
    · exact hne a ha b hb hak hbk hname
    · exact hne b hb a ha hbk hak hname.symm
    · exact hpair (by rw [hak, hbk, hname])

/-- Published commands differ in name, kind or guild, except that a command may have the name of a group;
so do the options of a group in their names, except that a command may have the name of a group. -/
theorem published_names (h : r.Reachable) (hflat : r.Flat) :
    (r.published.map fun t => (t.upsertKey, t.isGroup)).Nodup ∧
    ((r.published.map AppCommand.upsertKey).Nodup ↔
      ∀ c ∈ r.commands, c.group = none → c.app.kind = .chatInput →
        ∀ d ∈ r.commands, d.group.map (·.name) = some c.app.name →
          d.app.guildId ≠ c.app.guildId) ∧
    ∀ t ∈ r.published, t.isGroup = true →
      ((t.options.getD []).map fun o => (o.kind, o.name)).Nodup ∧
      (((t.options.getD []).map (·.name)).Nodup ↔
        ∀ c ∈ r.commands, c.InGroup t → c.subgroup = none →
          ∀ d ∈ r.commands, d.InGroup t → d.subgroup.map (·.name) ≠ some c.app.name) ∧
      ∀ s ∈ t.options.getD [], s.kind = .subCommandGroup →
        ((s.options.getD []).map (·.name)).Nodup :=
  ⟨h.nodup_upsertKey_isGroup hflat, h.nodup_upsertKey_iff hflat, fun _ ht hgroup =>
    ⟨h.nodup_kind_name hflat ht hgroup, h.nodup_names_iff hflat ht hgroup,
      fun _ hs hk => h.nodup_names_in_subgroup hflat ht hgroup hs hk⟩⟩

def sharingNames : Registry :=
  let music : Group := { name := "music" }
  registerAll [
    { Declaration.chatInput "music" with handler := some fun _ _ => .ok .none },
    { Declaration.chatInput "queue" with
      handler := some fun _ _ => .ok .none, parent := some (.group music) },
    { Declaration.chatInput "add" with
      handler := some fun _ _ => .ok .none
      parent := some (.subgroup { name := "queue", parent := music }) }]

lemma sharingNames_reachable : sharingNames.Reachable :=
  reachable_registerAll (by simp [Declaration.chatInput])

lemma sharingNames_flat : sharingNames.Flat := by
  unfold Flat
  decide

theorem sharingNames_published_names :
    (sharingNames.Reachable ∧ sharingNames.Flat) ∧
      (sharingNames.published.map fun t => (t.upsertKey, t.isGroup)).Nodup :=
  ⟨⟨sharingNames_reachable, sharingNames_flat⟩,
    (published_names sharingNames_reachable sharingNames_flat).1⟩

theorem published_names_shared :
    ∃ r : Registry, r.Reachable ∧ r.Flat ∧ ¬ (r.published.map AppCommand.upsertKey).Nodup ∧
      ∃ t ∈ r.published, t.isGroup = true ∧ ¬ ((t.options.getD []).map (·.name)).Nodup := by
  refine ⟨sharingNames, sharingNames_reachable, sharingNames_flat, by decide, ?_⟩
  have hsecond : sharingNames.published[1]? = some sharingNames.published[1] := rfl
  exact ⟨_, List.mem_of_getElem? hsecond, by decide, by decide⟩

end Registry

end DiscordBot
