import DiscordBot.Proofs.Config.Registration
import DiscordBot.Proofs.Config.Validation
import DiscordBot.Proofs.Registry.Errors

/-! What becomes of the commands of a valid configuration. They are registered in order, up to the first one that
breaks a rule for commands. No fault of the configuration itself is left to be found. -/

namespace DiscordBot

lemma OptionSection.exists_arguments {os : List OptionSection}
    (h : ∀ o ∈ os, ∃ kind, o.optionType = .ok kind) :
    ∃ arguments, List.Forall₂ (fun o a => o.argument = .ok a) os arguments := by
  induction os with
  | nil => exact ⟨[], .nil⟩
  | cons o os ih =>
    obtain ⟨⟨kind, hkind⟩, hos⟩ := List.forall_mem_cons.mp h
    obtain ⟨arguments, harguments⟩ := ih hos
    exact ⟨_, .cons (except_bind_eq_ok.mpr ⟨kind, hkind, rfl⟩) harguments⟩

namespace CommandSection

variable {s : CommandSection} {d : Declaration} {c : RegisteredCommand}

structure Yields (s : CommandSection) (c : RegisteredCommand) : Prop extends s.Describes c where
  description : c.app.description =
    s.description.getD (if c.app.kind = .chatInput then "Description not set" else "")
  guild : c.app.guildId.map some = s.guild.map Snowflake.parse?
  enabled : c.app.defaultPermission = some true
  options : c.app.options ≠ some []
  unassigned : c.app.id = none ∧ c.app.applicationId = none ∧ c.app.version = none
  group : c.group = s.group.map fun name => { name := name }
  subgroup : c.subgroup = s.group.bind fun group => s.subgroup.map fun name =>
    { name := name, parent := { name := group } }

lemma Says.yields (hd : s.Says d) (hc : d.Declares c) : s.Yields c where
  toDescribes := hd.describes hc
  description := by
    rw [hc.description, hd.description, hc.kind]
    cases s.description <;> simp [apply_ite (Option.getD · "")]
  guild := by rw [hc.guild, hd.guild]
  enabled := hc.enabled.trans (congrArg some hd.enabled)
  options := by
    rw [hc.options]
    cases d.arguments <;> simp
  unassigned := hc.unassigned
  group := hc.group.trans hd.group
  subgroup := hc.subgroup.trans hd.subgroup

lemma Usable.exists_parent (h : s.Usable) : ∃ parent, s.parent = .ok parent := by
  have hgroup := h.group
  unfold parent
  generalize s.group = group, s.subgroup = subgroup at hgroup ⊢
  rcases group with _ | group
  · rcases subgroup with _ | subgroup
    · exact ⟨_, rfl⟩
    · cases hgroup rfl
  · rcases subgroup with _ | subgroup
    · exact ⟨_, rfl⟩
    · exact ⟨_, rfl⟩

lemma Usable.exists_declaration (h : s.Usable) : ∃ d, s.declaration = .ok d := by
  obtain ⟨kind, hkind⟩ := h.kind
  obtain ⟨scope, hscope⟩ := h.scope
  obtain ⟨parent, hparent⟩ := h.exists_parent
  obtain ⟨arguments, harguments⟩ := OptionSection.exists_arguments h.options
  rw [declaration, hkind, hscope, hparent, mapM_eq_ok.mpr harguments]
  exact ⟨_, rfl⟩

end CommandSection

lemma registerSections_of_usable {sections : List CommandSection} (h : ∀ s ∈ sections, s.Usable)
    (r : Registry) :
    (∃ added, registerSections sections r = (.ok (), ⟨r.commands ++ added⟩) ∧
      List.Forall₂ CommandSection.Yields sections added) ∨
    ∃ before s after added e d, sections = before ++ s :: after ∧
      registerSections sections r = (.error e, ⟨r.commands ++ added⟩) ∧
      List.Forall₂ CommandSection.Yields before added ∧ e.OfCommand ∧
      s.Says d ∧ (Registry.register ⟨r.commands ++ added⟩ d).1 = .error e := by
  induction sections generalizing r with
  | nil => exact .inl ⟨[], by rw [List.append_nil]; rfl, .nil⟩
  | cons s sections ih =>
    obtain ⟨hs, hsections⟩ := List.forall_mem_cons.mp h
    obtain ⟨d, hd⟩ := hs.exists_declaration
    have hsaid := CommandSection.says_of_declaration hd
    rw [registerSections_cons hd]
    cases hregister : r.register d with
    | mk result next =>
    cases result with
    | error e =>
      have herror : (r.register d).1 = .error e := congrArg Prod.fst hregister
      obtain rfl : next = r := (congrArg Prod.snd hregister).symm.trans (Registry.register_of_error herror)
      have hfailed := next.failsByCommand_register hsaid.handler e herror
      refine .inr ⟨[], s, sections, [], e, d, rfl, by rw [List.append_nil], .nil, hfailed, hsaid, ?_⟩
      rwa [List.append_nil]
    | ok c =>
      obtain ⟨hdeclares, -, -, rfl⟩ := Registry.register_eq_ok_iff.mp hregister
      dsimp only
      rcases ih hsections ⟨r.commands ++ [c]⟩ with ⟨added, hok, hadded⟩ | hfails
      · refine .inl ⟨c :: added, ?_, .cons (hsaid.yields hdeclares) hadded⟩
        rw [hok, List.append_assoc, List.singleton_append]
      · obtain ⟨before, s', after, added, e, d', rfl, hrun, hadded, he, hd', hfails⟩ := hfails
        rw [List.append_assoc, List.singleton_append] at hrun hfails
        exact .inr ⟨s :: before, s', after, c :: added, e, d', rfl, hrun,
          .cons (hsaid.yields hdeclares) hadded, he, hd', hfails⟩

namespace BotConfig

/-- The commands of a valid configuration are put at the end of a registry in their order. If that fails, it is
at one of them, with an error about that command, and exactly the ones before it have been put there. -/
theorem registered_in_order {c : BotConfig} (hvalid : c.validate = .ok ()) (r : Registry) :
    (∃ added, c.register r = (.ok c.commands.length, ⟨r.commands ++ added⟩) ∧
      List.Forall₂ CommandSection.Yields c.commands added) ∨
    ∃ before s after added e d, c.commands = before ++ s :: after ∧
      c.register r = (.error e, ⟨r.commands ++ added⟩) ∧
      List.Forall₂ CommandSection.Yields before added ∧ e.OfCommand ∧
      s.Says d ∧ (Registry.register ⟨r.commands ++ added⟩ d).1 = .error e := by
  rcases registerSections_of_usable (usable_of_validate hvalid) r with ⟨added, hok, hadded⟩ | hfails
  · refine .inl ⟨added, ?_, hadded⟩
    rw [register, hok]
    rfl
  · obtain ⟨before, s, after, added, e, d, hcommands, hrun, hadded, he, hd, hfails⟩ := hfails
    refine .inr ⟨before, s, after, added, e, d, hcommands, ?_, hadded, he, hd, hfails⟩
    rw [register, hrun]
    rfl

def greet : CommandSection where
  name := "greet"
  kind := some "slash"
  description := none
  guild := some "42"
  cooldown := some 3
  cooldownScale := none
  cooldownScope := some "channel"
  ephemeral := none
  reply := "Hello \x7bwho\x7d!"
  group := some "social"
  subgroup := some "kind"
  options := [{
    name := "who", kind := "user", description := none, required := none, choices := [], minValue := none,
    maxValue := none }]

def doubled : BotConfig where
  bot := { token := "token", apiVersion := none, maxRetries := none, intents := none, apiBase := none,
           gatewayUrl := none }
  commands := [greet, greet]

theorem doubled_registered_in_order : doubled.validate = .ok () ∧
    ∃ command e, doubled.register {} = (.error e, ⟨[command]⟩) ∧ greet.Yields command ∧ e.OfCommand := by
  have hvalid : doubled.validate = .ok () := rfl
  have hfailed : (doubled.register {}).1.toOption = none := rfl
  have hsize : (doubled.register {}).2.size = 1 := rfl
  refine ⟨hvalid, ?_⟩
  rcases registered_in_order hvalid {} with ⟨added, hok, -⟩ | hfails
  · rw [hok] at hfailed
    cases hfailed
  · obtain ⟨before, s, after, added, e, d, hcommands, hrun, hadded, he, -, -⟩ := hfails
    rw [hrun] at hsize
    obtain ⟨command, rfl⟩ := List.length_eq_one_iff.mp hsize
    cases hadded with
    | @cons s' _ _ _ hyields hnil =>
      cases hnil
      obtain ⟨rfl, -⟩ := List.cons.inj hcommands
      exact ⟨command, e, hrun, hyields, he⟩

end BotConfig

end DiscordBot
