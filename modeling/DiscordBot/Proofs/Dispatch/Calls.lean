import DiscordBot.Dispatcher
import DiscordBot.Proofs.Published.Leaves

/-! Calls of published commands. The path of a call is the command that was registered, and the registry
finds it by that path. -/

namespace DiscordBot

def InteractionOption.Names (x : InteractionOption) (o : CommandOption) : Prop :=
  x.name = o.name ∧ x.kind = o.kind

def Route.Carries (given sent : List InteractionOption) : Route → Prop
  | .self => sent = given
  | .command o => ∃ x, sent = [x] ∧ x.Names o ∧ x.options.getD [] = given
  | .nested s o => ∃ y x, sent = [y] ∧ y.Names s ∧ y.options = some [x] ∧ x.Names o ∧
      x.options.getD [] = given

/-- An interaction that the service builds for a way down a published command. A command of a guild is
called inside that guild only. -/
structure Interaction.Calls (i : Interaction) (t : AppCommand) (route : Route)
    (given : List InteractionOption) : Prop where
  data : ∃ data, i.data = some data ∧ data.name = some t.name ∧ data.kind = some t.kind ∧
    route.Carries given (data.options.getD [])
  guild : t.guildId.isSome → i.guildId = t.guildId
  arguments : ∀ x ∈ given, x.kind.isNesting = false

variable {i : Interaction} {t : AppCommand} {route : Route} {given : List InteractionOption}

def Leaf.path (l : Leaf) (given : List InteractionOption) : CommandPath where
  name := l.name
  group := l.group
  subgroup := l.subgroup
  options := given

lemma Interaction.Calls.commandPath? (hi : i.Calls t route given) (hroute : route ∈ t.routes) :
    i.commandPath? = some ((t.leafAt route).path given) := by
  obtain ⟨data, hdata, hname, -, hcarries⟩ := hi.data
  cases route with
  | self =>
    have hsent : data.options.getD [] = given := hcarries
    cases given with
    | nil => simp [Interaction.commandPath?, hdata, hname, hsent, Leaf.path, AppCommand.leafAt]
    | cons x xs =>
      -- The first argument is not taken for a way down.
      have hx := hi.arguments x List.mem_cons_self
      simp only [Interaction.commandPath?, hdata, hname, hsent, Option.bind_eq_bind,
        Option.bind_some, Leaf.path, AppCommand.leafAt]
      split
      · rename_i hk
        simp [hk, OptionType.isNesting] at hx
      · rename_i hk
        simp [hk, OptionType.isNesting] at hx
      · rfl
  | command o =>
    obtain ⟨x, hsent, ⟨hxn, hxk⟩, rfl⟩ := hcarries
    obtain ⟨-, -, hk⟩ := AppCommand.command_mem_routes.mp hroute
    simp [Interaction.commandPath?, hdata, hname, hsent, hxk, hk, hxn, Leaf.path, AppCommand.leafAt]
  | nested s o =>
    obtain ⟨y, x, hsent, ⟨hyn, hyk⟩, hy, ⟨hxn, -⟩, rfl⟩ := hcarries
    obtain ⟨-, -, hk, -⟩ := AppCommand.nested_mem_routes.mp hroute
    simp [Interaction.commandPath?, hdata, hname, hsent, hyk, hk, hyn, hy, hxn, Leaf.path,
      AppCommand.leafAt]

lemma Interaction.Calls.keyOf (hi : i.Calls t route given) {c : RegisteredCommand}
    (hleaf : t.leafAt route = c.leaf) :
    Dispatcher.keyOf i (c.leaf.path given) = { c.key with guildId := i.guildId } := by
  obtain ⟨data, hdata, -, hkind, -⟩ := hi.data
  simp [Dispatcher.keyOf, hdata, hkind, RegisteredCommand.kind_of_leaf hleaf, Leaf.path,
    RegisteredCommand.leaf, RegisteredCommand.key]

namespace Registry

variable {r : Registry} {c : RegisteredCommand}

/-- Each command of a registry can be called. Each call of it has its name, its groups and the given
arguments as its path, and finds it; a command of the same name, kind and groups in the guild of the call
goes before a global one. -/
theorem Reachable.find_call (h : r.Reachable) (hflat : r.Flat) (hc : c ∈ r.commands) :
    (∃ t ∈ r.published, ∃ route ∈ t.routes, t.leafAt route = c.leaf) ∧
    ∀ t ∈ r.published, ∀ route ∈ t.routes, t.leafAt route = c.leaf →
      ∀ (i : Interaction) (given : List InteractionOption), i.Calls t route given →
        ∃ path, i.commandPath? = some path ∧
          path.name = c.app.name ∧ path.group = c.group.map (·.name) ∧
          path.subgroup = c.subgroup.map (·.name) ∧ path.options = given ∧
          (c.app.guildId ≠ none → r.find (Dispatcher.keyOf i path) = some c) ∧
          (c.app.guildId = none →
            (∀ d ∈ r.commands, d.key = { c.key with guildId := i.guildId } →
              r.find (Dispatcher.keyOf i path) = some d) ∧
            ((∀ d ∈ r.commands, d.key ≠ { c.key with guildId := i.guildId }) →
              r.find (Dispatcher.keyOf i path) = some c)) := by
  refine ⟨h.exists_route hflat hc, ?_⟩
  intro t _ route hroute hleaf i given hi
  have hkey := hi.keyOf hleaf
  refine ⟨c.leaf.path given, hleaf ▸ hi.commandPath? hroute, rfl, rfl, rfl, rfl, ?_, ?_⟩
  · intro hguild
    have hown : t.guildId = c.app.guildId := (RegisteredCommand.guildId_of_leaf hleaf).symm
    have hcall : i.guildId = c.app.guildId := by
      rw [hi.guild (by rwa [hown, Option.isSome_iff_ne_none]), hown]
    rw [hkey, hcall]
    exact h.find_key hc
  · intro hglobal
    rw [hkey]
    refine ⟨fun d hd hdkey => ?_, h.find_global hc hglobal⟩
    rw [← hdkey]
    exact h.find_key hd

def musicQueue : Registry :=
  let parent : Parent := .subgroup { name := "queue", parent := { name := "music" } }
  registerAll [
    { Declaration.chatInput "add" with handler := some fun _ _ => .ok .none, parent := some parent },
    { Declaration.chatInput "add" with
      handler := some fun _ _ => .ok .none, parent := some parent, guild := some "7" }]

def musicQueueCall (guildId : Snowflake) : Interaction :=
  let add : InteractionOption := ⟨"add", .subCommand, none, none, none⟩
  { (default : Interaction) with
    guildId := some guildId
    data := some { (default : InteractionData) with
      name := some "music"
      kind := some .chatInput
      options := some [⟨"queue", .subCommandGroup, none, some [add], none⟩] } }

lemma musicQueue_reachable : musicQueue.Reachable :=
  reachable_registerAll (by simp [Declaration.chatInput])

lemma musicQueue_flat : musicQueue.Flat := by
  unfold Flat
  decide

lemma musicQueueCall_calls (g : Snowflake) {t : AppCommand} {s o : CommandOption}
    (ht : t.name = "music" ∧ t.kind = .chatInput ∧ t.guildId = none)
    (hs : s.name = "queue" ∧ s.kind = .subCommandGroup) (ho : o.name = "add" ∧ o.kind = .subCommand) :
    (musicQueueCall g).Calls t (.nested s o) [] where
  data := by
    refine ⟨_, rfl, ?_, ?_, _, _, rfl, ⟨?_, ?_⟩, rfl, ⟨?_, ?_⟩, rfl⟩ <;> simp [ht, hs, ho]
  guild := by simp [ht]
  arguments := by simp

theorem musicQueue_find_call :
    ∃ c d : RegisteredCommand, musicQueue.commands = [c, d] ∧
      ∀ g, ∃ path, (musicQueueCall g).commandPath? = some path ∧ path.name = "add" ∧
        path.group = some "music" ∧ path.subgroup = some "queue" ∧
        (g = ⟨7⟩ → musicQueue.find (Dispatcher.keyOf (musicQueueCall g) path) = some d) ∧
        (g ≠ ⟨7⟩ → musicQueue.find (Dispatcher.keyOf (musicQueueCall g) path) = some c) := by
  obtain ⟨c, d, hcs⟩ : ∃ c d, musicQueue.commands = [c, d] := ⟨_, _, rfl⟩
  have hkeys : [c.key, d.key] = [⟨"add", none, .chatInput, some "music", some "queue"⟩,
      ⟨"add", some ⟨7⟩, .chatInput, some "music", some "queue"⟩] :=
    (congrArg (List.map RegisteredCommand.key) hcs).symm
  have hc : c ∈ musicQueue.commands := by simp [hcs]
  have hd : d ∈ musicQueue.commands := by simp [hcs]
  obtain ⟨⟨t, ht, route, hroute, hleaf⟩, hcalls⟩ :=
    Reachable.find_call musicQueue_reachable musicQueue_flat hc
  simp only [List.cons.injEq, RegisteredCommand.key, CommandKey.mk.injEq] at hkeys
  obtain ⟨⟨hname, hguild, hkind, hgroup, hsub⟩, hdkey, -⟩ := hkeys
  refine ⟨c, d, hcs, fun g => ?_⟩
  have hi : (musicQueueCall g).Calls t route [] := by
    have hne := RegisteredCommand.ne_self_of_group hleaf hgroup
    have htname := (RegisteredCommand.inGroup_of_leaf hleaf hne).1.symm.trans hgroup
    have htkind := (RegisteredCommand.kind_of_leaf hleaf).symm.trans hkind
    have htguild := (RegisteredCommand.guildId_of_leaf hleaf).symm.trans hguild
    cases route with
    | self => exact absurd rfl hne
    | command o =>
      rw [(RegisteredCommand.name_of_command hleaf).1] at hsub
      cases hsub
    | nested s o =>
      obtain ⟨-, -, hs, -, ho⟩ := AppCommand.nested_mem_routes.mp hroute
      obtain ⟨hsname, honame⟩ := RegisteredCommand.name_of_nested hleaf
      exact musicQueueCall_calls g ⟨Option.some.inj htname, htkind, htguild⟩
        ⟨Option.some.inj (hsname.symm.trans hsub), hs⟩ ⟨honame.symm.trans hname, ho⟩
  obtain ⟨path, hpath, hpn, hpg, hps, -, -, hfind⟩ := hcalls t ht route hroute hleaf _ _ hi
  refine ⟨path, hpath, hpn.trans hname, hpg.trans hgroup, hps.trans hsub, ?_, ?_⟩
  · rintro rfl
    refine (hfind hguild).1 d hd ?_
    simp [RegisteredCommand.key, hname, hkind, hgroup, hsub, hdkey, musicQueueCall]
  · intro hg
    refine (hfind hguild).2 fun e he hkey => ?_
    rw [hcs] at he
    have heg : e.app.guildId = some g := congrArg CommandKey.guildId hkey
    rcases List.mem_pair.mp he with rfl | rfl
    · simp [hguild] at heg
    · simp [hdkey.2.1, Ne.symm hg] at heg

end Registry

end DiscordBot
