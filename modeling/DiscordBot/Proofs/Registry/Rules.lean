import DiscordBot.Proofs.Registry.Reachable
import Mathlib.Data.List.Forall2
import Mathlib.Data.List.Induction

/-! The rules of the service, which every registered command obeys. A declaration is registered exactly if
what it declares obeys them and its key is free; else the registry stays as it was. -/

namespace DiscordBot

lemma check_bind_eq_ok {ε β : Type} {check : Except ε Unit} {f : Unit → Except ε β} {b : β} :
    (check >>= f) = .ok b ↔ check = .ok () ∧ f () = .ok b := by
  rw [except_bind_eq_ok]
  exact ⟨fun ⟨(), h⟩ => h, fun h => ⟨(), h⟩⟩

def Named (sort : Char → Prop) (name : String) : Prop :=
  1 ≤ name.length ∧ name.length ≤ 32 ∧ ∀ ch ∈ name.toList, sort ch

def TypedChar (ch : Char) : Prop := ('a' ≤ ch ∧ ch ≤ 'z') ∨ ('0' ≤ ch ∧ ch ≤ '9') ∨ ch = '_' ∨ ch = '-'

def MenuChar (ch : Char) : Prop := Text.isWordChar ch = true ∨ ch = ' ' ∨ ch = '-'

lemma NameRule.allows_iff {rule : NameRule} {sort : Char → Prop}
    (h : ∀ ch, rule.allowsChar ch = true ↔ sort ch) (name : String) :
    rule.allows name = true ↔ Named sort name := by
  simp [allows, Named, h, and_assoc, String.length_toList]

lemma NameRule.typed_allows_iff (name : String) :
    NameRule.typed.allows name = true ↔ Named TypedChar name :=
  allows_iff (fun ch => by simp [allowsChar, TypedChar, or_assoc]) name

lemma NameRule.menu_allows_iff (name : String) :
    NameRule.menu.allows name = true ↔ Named MenuChar name :=
  allows_iff (fun ch => by simp [allowsChar, MenuChar, or_assoc, or_comm (a := ch = '-')]) name

def ChoiceValue.Suits (kind : OptionType) : ChoiceValue → Prop
  | integer _ => kind = .integer ∨ kind = .number
  | number _ => kind = .number
  | string _ => kind = .string

lemma ChoiceValue.fits_iff {v : ChoiceValue} {kind : OptionType} :
    v.fits kind = true ↔ v.Suits kind := by
  cases v <;> cases kind <;> simp [fits, Suits]

namespace CommandOption

structure Obeys (o : CommandOption) : Prop where
  name : Named TypedChar o.name
  description : o.description.length ≤ 100
  choices : ∀ cs ∈ o.choices, (o.kind = .string ∨ o.kind = .integer ∨ o.kind = .number) ∧
    cs.length ≤ 25 ∧ ∀ c ∈ cs, c.value.Suits o.kind
  channelTypes : o.channelTypes ≠ none → o.kind = .channel
  minValue : o.minValue ≠ none → o.kind = .integer ∨ o.kind = .number
  maxValue : o.maxValue ≠ none → o.kind = .integer ∨ o.kind = .number

variable {o : CommandOption}

lemma checkChoices_eq_ok : o.checkChoices = .ok () ↔
    ∀ cs ∈ o.choices, (o.kind = .string ∨ o.kind = .integer ∨ o.kind = .number) ∧ cs.length ≤ 25 ∧
      ∀ c ∈ cs, c.value.Suits o.kind := by
  have hkind : o.kind.acceptsChoices = true ↔ o.kind = .string ∨ o.kind = .integer ∨ o.kind = .number := by
    cases o.kind <;> simp [OptionType.acceptsChoices]
  unfold checkChoices
  cases o.choices with
  | none => simp
  | some cs =>
    have hcount : decide (cs.length ≤ greatestChoices) = true ↔ cs.length ≤ 25 := decide_eq_true_iff
    simp [check_bind_eq_ok, require_eq_ok, hkind, hcount, ChoiceValue.fits_iff]

lemma checkArgument_eq_ok {command : String} : o.checkArgument command = .ok () ↔ o.Obeys := by
  have hnumeric : o.kind.isNumeric = true ↔ o.kind = .integer ∨ o.kind = .number := by
    cases o.kind <;> simp [OptionType.isNumeric]
  have hlength : decide (o.description.length ≤ greatestDescription) = true ↔
      o.description.length ≤ 100 := decide_eq_true_iff
  have hcheck : o.checkArgument command = .ok () ↔ Named TypedChar o.name ∧
      o.description.length ≤ 100 ∧ o.checkChoices = .ok () ∧
      (o.channelTypes = none ∨ o.kind = .channel) ∧
      (o.minValue = none ∨ o.kind = .integer ∨ o.kind = .number) ∧
      (o.maxValue = none ∨ o.kind = .integer ∨ o.kind = .number) := by
    simp [checkArgument, check_bind_eq_ok, require_eq_ok, NameRule.typed_allows_iff,
      hlength, hnumeric]
  rw [hcheck, checkChoices_eq_ok]
  constructor
  · rintro ⟨hname, hdescription, hchoices, htypes, hmin, hmax⟩
    exact ⟨hname, hdescription, hchoices, htypes.resolve_left, hmin.resolve_left, hmax.resolve_left⟩
  · rintro ⟨hname, hdescription, hchoices, htypes, hmin, hmax⟩
    exact ⟨hname, hdescription, hchoices, or_iff_not_imp_left.mpr htypes,
      or_iff_not_imp_left.mpr hmin, or_iff_not_imp_left.mpr hmax⟩

end CommandOption

structure RegisteredCommand.Obeys (c : RegisteredCommand) : Prop where
  typedName : c.app.kind = .chatInput → Named TypedChar c.app.name
  menuName : c.app.kind ≠ .chatInput → Named MenuChar c.app.name
  group : ∀ g ∈ c.group, Named TypedChar g.name
  subgroup : ∀ s ∈ c.subgroup, Named TypedChar s.name
  description : c.app.description.length ≤ 100
  count : (c.app.options.getD []).length ≤ 25
  arguments : ∀ o ∈ c.app.options.getD [], o.Obeys
  menu : c.app.kind ≠ .chatInput → c.app.options = none ∧ c.group = none ∧ c.subgroup = none

namespace Declaration

/-- The command that a declaration describes: nothing of it is lost and nothing is added. -/
structure Declares (d : Declaration) (c : RegisteredCommand) : Prop where
  kind : c.app.kind = d.kind
  name : c.app.name = d.name
  description : c.app.description = d.description.getD ""
  enabled : c.app.defaultPermission = some d.enabledByDefault
  guild : c.app.guildId.map some = d.guild.map Snowflake.parse?
  options : c.app.options = if d.arguments = [] then none else some (d.arguments.map (·.option))
  unassigned : c.app.id = none ∧ c.app.applicationId = none ∧ c.app.version = none
  handler : d.handler = some c.handler
  cooldown : c.cooldown = d.cooldown ∧ c.cooldownScale = d.cooldownScale ∧
    c.cooldownScope = d.cooldownScope
  group : c.group = d.parent.map Parent.outer
  subgroup : c.subgroup = d.parent.bind Parent.inner?

variable {d : Declaration} {c : RegisteredCommand}

lemma requireHandler_eq_ok {handler : CommandHandler} :
    d.requireHandler = .ok handler ↔ d.handler = some handler := by
  unfold requireHandler
  cases d.handler <;> simp

lemma readGuild_eq_ok {guildId : Option Snowflake} :
    d.readGuild = .ok guildId ↔ guildId.map some = d.guild.map Snowflake.parse? := by
  unfold readGuild
  cases d.guild with
  | none => cases guildId <;> simp
  | some text =>
    dsimp only [Option.map_some]
    cases Snowflake.parse? text <;> cases guildId <;> simp [eq_comm]

lemma declares_iff : d.Declares c ↔ ∃ handler guildId, d.requireHandler = .ok handler ∧
    d.readGuild = .ok guildId ∧ c = d.command handler guildId := by
  simp only [requireHandler_eq_ok, readGuild_eq_ok]
  constructor
  · intro h
    refine ⟨c.handler, c.app.guildId, h.handler, h.guild, ?_⟩
    obtain ⟨⟨id, kind, applicationId, guildId, name, description, options, permission, version⟩,
      handler, cooldown, scale, scope, group, subgroup⟩ := c
    obtain ⟨rfl, rfl, rfl, rfl, -, rfl, ⟨rfl, rfl, rfl⟩, -, ⟨rfl, rfl, rfl⟩, rfl, rfl⟩ := h
    simp [command, AppCommand.named]
  · rintro ⟨handler, guildId, hhandler, hguild, rfl⟩
    exact ⟨rfl, rfl, rfl, rfl, hguild, by simp [command], ⟨rfl, rfl, rfl⟩, hhandler, ⟨rfl, rfl, rfl⟩,
      rfl, rfl⟩

lemma checkArguments_eq_ok {command : String} {as : List Argument} :
    checkArguments command as = .ok () ↔ ∀ o ∈ as.map (·.option), o.Obeys := by
  induction as with
  | nil => simp [checkArguments]
  | cons a as ih => simp [checkArguments, check_bind_eq_ok, CommandOption.checkArgument_eq_ok, ih]

lemma checkName_eq_ok : d.checkName = .ok () ↔
    (d.kind = .chatInput → Named TypedChar d.name) ∧ (d.kind ≠ .chatInput → Named MenuChar d.name) := by
  rw [checkName, require_eq_ok, nameRule]
  by_cases hk : d.kind = .chatInput
  · simp [hk, NameRule.typed_allows_iff]
  · simp [hk, NameRule.menu_allows_iff]

lemma checkParent_eq_ok_iff : d.checkParent = .ok () ↔
    (∀ g ∈ d.parent.map Parent.outer, Named TypedChar g.name) ∧
      ∀ s ∈ d.parent.bind Parent.inner?, Named TypedChar s.name := by
  unfold checkParent
  cases d.parent with
  | none => simp
  | some p =>
    cases p <;> simp [checkGroupName, check_bind_eq_ok, require_eq_ok, NameRule.typed_allows_iff,
      Parent.outer, Parent.inner?]

lemma command_obeys_iff {handler : CommandHandler} {guildId : Option Snowflake} :
    (d.command handler guildId).Obeys ↔ d.checkName = .ok () ∧ d.checkDescription = .ok () ∧
      d.checkCount = .ok () ∧ d.checkMenu = .ok () ∧ checkArguments d.name d.arguments = .ok () ∧
      d.checkParent = .ok () := by
  have hoptions : (d.command handler guildId).app.options.getD [] = d.arguments.map (·.option) := by
    cases hd : d.arguments <;> simp [command, hd]
  have hmenu : d.checkMenu = .ok () ↔ (d.kind ≠ .chatInput → (d.command handler guildId).app.options = none
      ∧ d.parent.map Parent.outer = none ∧ d.parent.bind Parent.inner? = none) := by
    rw [checkMenu_eq_ok, or_iff_not_imp_left]
    refine imp_congr_right fun _ => ?_
    cases d.parent <;> simp [command]
  rw [checkName_eq_ok, checkDescription, require_eq_ok, checkCount, require_eq_ok, hmenu,
    checkArguments_eq_ok, checkParent_eq_ok_iff, decide_eq_true_iff, decide_eq_true_iff]
  constructor
  · rintro ⟨htyped, hmenuName, hgroup, hsubgroup, hdescription, hcount, harguments, hmenu⟩
    rw [hoptions] at hcount harguments
    rw [List.length_map] at hcount
    exact ⟨⟨htyped, hmenuName⟩, hdescription, hcount, hmenu, harguments, hgroup, hsubgroup⟩
  · rintro ⟨⟨htyped, hmenuName⟩, hdescription, hcount, hmenu, harguments, hgroup, hsubgroup⟩
    refine ⟨htyped, hmenuName, hgroup, hsubgroup, hdescription, ?_, ?_, hmenu⟩
    · rwa [hoptions, List.length_map]
    · rwa [hoptions]

theorem check_eq_ok_iff : d.check = .ok c ↔ d.Declares c ∧ c.Obeys := by
  rw [check_eq_ok, declares_iff]
  constructor
  · rintro ⟨handler, guildId, hname, hhandler, hguild, hdescription, hcount, hmenu, harguments,
      hparent, rfl⟩
    exact ⟨⟨handler, guildId, hhandler, hguild, rfl⟩,
      command_obeys_iff.mpr ⟨hname, hdescription, hcount, hmenu, harguments, hparent⟩⟩
  · rintro ⟨⟨handler, guildId, hhandler, hguild, rfl⟩, hobeys⟩
    obtain ⟨hname, hdescription, hcount, hmenu, harguments, hparent⟩ := command_obeys_iff.mp hobeys
    exact ⟨handler, guildId, hname, hhandler, hguild, hdescription, hcount, hmenu, harguments, hparent,
      rfl⟩

end Declaration

def RegisteredCommand.Collides (a b : RegisteredCommand) : Prop :=
  a.app.name = b.app.name ∧ a.app.guildId = b.app.guildId ∧ a.app.kind = b.app.kind ∧
    a.group.map (·.name) = b.group.map (·.name) ∧ a.subgroup.map (·.name) = b.subgroup.map (·.name)

lemma RegisteredCommand.key_eq_iff {a b : RegisteredCommand} : a.key = b.key ↔ a.Collides b := by
  simp [key, Collides]

namespace Registry

structure Lawful (r : Registry) : Prop where
  apart : r.commands.Pairwise fun a b => ¬a.Collides b
  obeys : ∀ c ∈ r.commands, c.Obeys

variable {r r' : Registry} {d : Declaration} {c : RegisteredCommand} {e : BotError}

lemma register_eq_ok_iff : r.register d = (.ok c, r') ↔ d.Declares c ∧ c.Obeys ∧
    (∀ o ∈ r.commands, ¬o.Collides c) ∧ r' = ⟨r.commands ++ [c]⟩ := by
  simp only [register_eq_ok, Declaration.check_eq_ok_iff, RegisteredCommand.key_eq_iff, ne_eq, and_assoc]

lemma register_of_ok (h : (r.register d).1 = .ok c) : d.Declares c ∧ c.Obeys ∧
    (∀ o ∈ r.commands, ¬o.Collides c) ∧ (r.register d).2 = ⟨r.commands ++ [c]⟩ :=
  register_eq_ok_iff.mp (Prod.ext h rfl)

lemma Lawful.register (hr : r.Lawful) (d : Declaration) : (r.register d).2.Lawful := by
  cases h : (r.register d).1 with
  | error e => rwa [register_of_error h]
  | ok c =>
    obtain ⟨-, hobeys, hfree, hnext⟩ := register_of_ok h
    rw [hnext]
    constructor
    · refine List.pairwise_append.mpr ⟨hr.apart, List.pairwise_singleton .., fun o ho x hx => ?_⟩
      rw [List.mem_singleton.mp hx]
      exact hfree o ho
    · exact List.forall_mem_append.mpr ⟨hr.obeys, List.forall_mem_singleton.mpr hobeys⟩

lemma registerAll_concat (ds : List Declaration) (d : Declaration) :
    registerAll (ds ++ [d]) = ((registerAll ds).register d).2 := List.foldl_concat ..

lemma lawful_registerAll (ds : List Declaration) : (registerAll ds).Lawful :=
  List.foldlRecOn ds _ ⟨.nil, List.forall_mem_nil _⟩ fun _ hr d _ => hr.register d

lemma declared_registerAll (ds : List Declaration) :
    ∃ taken, taken.Sublist ds ∧ List.Forall₂ Declaration.Declares taken (registerAll ds).commands := by
  induction ds using List.reverseRecOn with
  | nil => exact ⟨[], .slnil, .nil⟩
  | append_singleton ds d ih =>
    obtain ⟨taken, hsub, htaken⟩ := ih
    rw [registerAll_concat]
    cases h : ((registerAll ds).register d).1 with
    | error e =>
      rw [register_of_error h]
      exact ⟨taken, hsub.trans (List.sublist_append_left ..), htaken⟩
    | ok c =>
      obtain ⟨hdeclares, -, -, hnext⟩ := register_of_ok h
      rw [hnext]
      exact ⟨taken ++ [d], hsub.append_right [d], List.rel_append htaken (.cons hdeclares .nil)⟩

/-- Whatever is declared, no two commands of a registry collide, all of them obey the rules, and they are
what was declared in that order, less what failed. One more declaration succeeds exactly if it obeys the
rules and collides with no command. Then it stands at the end as it was declared; if it fails, nothing
changes. -/
theorem registrations (ds : List Declaration) :
    (registerAll ds).commands.Pairwise (fun a b => ¬a.Collides b) ∧
    (∀ c ∈ (registerAll ds).commands, c.Obeys) ∧
    (∃ taken, taken.Sublist ds ∧
      List.Forall₂ Declaration.Declares taken (registerAll ds).commands) ∧
    ∀ d : Declaration,
      (∀ e r', (registerAll ds).register d = (.error e, r') →
        r' = registerAll ds ∧ registerAll (ds ++ [d]) = registerAll ds) ∧
      ∀ c r', (registerAll ds).register d = (.ok c, r') ↔
        d.Declares c ∧ c.Obeys ∧ (∀ o ∈ (registerAll ds).commands, ¬o.Collides c) ∧
          r'.commands = (registerAll ds).commands ++ [c] ∧ registerAll (ds ++ [d]) = r' := by
  refine ⟨(lawful_registerAll ds).apart, (lawful_registerAll ds).obeys, declared_registerAll ds,
    fun d => ⟨fun e r' h => ?_, fun c r' => ⟨fun h => ?_, ?_⟩⟩⟩
  · have hsame := register_of_error (congrArg Prod.fst h)
    rw [registerAll_concat]
    exact ⟨(congrArg Prod.snd h).symm.trans hsame, hsame⟩
  · obtain ⟨hdeclares, hobeys, hfree, hr'⟩ := register_eq_ok_iff.mp h
    refine ⟨hdeclares, hobeys, hfree, by rw [hr'], ?_⟩
    rw [registerAll_concat, h]
  · rintro ⟨hdeclares, hobeys, hfree, hr', -⟩
    exact register_eq_ok_iff.mpr ⟨hdeclares, hobeys, hfree, congrArg Registry.mk hr'⟩

end Registry

end DiscordBot
