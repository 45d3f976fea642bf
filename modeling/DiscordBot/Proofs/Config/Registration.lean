import DiscordBot.Config.Commands
import DiscordBot.Proofs.Registry.Rules

/-! The commands that a configuration registers: one for each section, in the order of the sections. -/

namespace DiscordBot

lemma mapM_eq_ok {ε α β : Type} {read : α → Except ε β} {xs : List α} {ys : List β} :
    xs.mapM read = .ok ys ↔ List.Forall₂ (fun x y => read x = .ok y) xs ys := by
  induction xs generalizing ys with
  | nil => cases ys <;> simp [pure, Except.pure]
  | cons x xs ih =>
    rw [List.mapM_cons, List.forall₂_cons_left_iff]
    simp only [except_bind_eq_ok, ih, pure, Except.pure, Except.ok.injEq, eq_comm (b := ys), exists_and_left]

section Words

def CommandType.words : List (String × CommandType) :=
  [("chat_input", .chatInput), ("slash", .chatInput), ("user", .user), ("message", .message)]

def ThrottleScope.words : List (String × ThrottleScope) :=
  [("guild", .guild), ("channel", .channel), ("user", .user), ("global", .global)]

def OptionType.words : List (String × OptionType) := [
  ("string", .string), ("integer", .integer), ("number", .number), ("boolean", .boolean), ("user", .user),
  ("channel", .channel), ("role", .role), ("mentionable", .mentionable)]

lemma CommandType.ofWord?_eq_some {word : String} {kind : CommandType} :
    ofWord? word = some kind ↔ (word, kind) ∈ words := by
  unfold ofWord?
  split <;> simp_all [words, eq_comm]

lemma ThrottleScope.ofWord?_eq_some {word : String} {scope : ThrottleScope} :
    ofWord? word = some scope ↔ (word, scope) ∈ words := by
  unfold ofWord?
  split <;> simp_all [words, eq_comm]

lemma OptionType.ofWord?_eq_some {word : String} {kind : OptionType} :
    ofWord? word = some kind ↔ (word, kind) ∈ words := by
  unfold ofWord?
  split <;> simp_all [words, eq_comm]

lemma meaning_eq_ok {α : Type} {ofWord? : String → Option α} {field word reason : String} {x : α} :
    meaning ofWord? field word reason = .ok x ↔ ofWord? word = some x := by
  unfold meaning
  cases ofWord? word <;> simp

end Words

structure OptionSection.Reads (o : OptionSection) (a : CommandOption) : Prop where
  kind : (o.kind, a.kind) ∈ OptionType.words
  name : a.name = o.name
  description : a.description = o.description.getD "Description not set"
  required : a.required = some (o.required.getD true)
  choices : a.choices.getD [] = o.choices ∧ a.choices ≠ some []
  range : a.minValue = o.minValue ∧ a.maxValue = o.maxValue
  plain : a.options = none ∧ a.channelTypes = none

lemma OptionSection.reads_of_argument {o : OptionSection} {a : Argument} (h : o.argument = .ok a) :
    o.Reads a.option := by
  obtain ⟨kind, hkind, h⟩ := except_bind_eq_ok.mp h
  obtain rfl := Except.ok.inj h
  refine ⟨OptionType.ofWord?_eq_some.mp (meaning_eq_ok.mp hkind), rfl, rfl, rfl, ?_, ⟨rfl, rfl⟩, rfl, rfl⟩
  cases o.choices <;> simp

namespace CommandSection

variable {s : CommandSection} {d : Declaration} {c : RegisteredCommand}

def replyWith (s : CommandSection) (declared : List CommandOption) : Reply.Static where
  template := s.reply
  ephemeral := s.ephemeral.getD false
  kinds := declared.map fun a => (a.name, a.kind)

structure Says (s : CommandSection) (d : Declaration) : Prop where
  kind : (s.kind.getD "chat_input", d.kind) ∈ CommandType.words
  name : d.name = s.name
  description : d.description = s.description.or (if d.kind = .chatInput then some "Description not set" else none)
  enabled : d.enabledByDefault = true
  guild : d.guild = s.guild
  cooldown : d.cooldown = s.cooldown.getD 0
  cooldownScale : d.cooldownScale = s.cooldownScale.getD 60
  cooldownScope : (s.cooldownScope.getD "user", d.cooldownScope) ∈ ThrottleScope.words
  group : d.parent.map Parent.outer = s.group.map fun name => { name := name }
  subgroup : d.parent.bind Parent.inner? = s.group.bind fun group => s.subgroup.map fun name =>
    { name := name, parent := { name := group } }
  arguments : List.Forall₂ OptionSection.Reads s.options (d.arguments.map (·.option))
  handler : d.handler = some (s.replyWith (d.arguments.map (·.option))).handler

/-- The command that a section describes. -/
structure Describes (s : CommandSection) (c : RegisteredCommand) : Prop where
  kind : (s.kind.getD "chat_input", c.app.kind) ∈ CommandType.words
  name : c.app.name = s.name
  cooldown : c.cooldown = s.cooldown.getD 0
  cooldownScale : c.cooldownScale = s.cooldownScale.getD 60
  cooldownScope : (s.cooldownScope.getD "user", c.cooldownScope) ∈ ThrottleScope.words
  arguments : List.Forall₂ OptionSection.Reads s.options (c.app.options.getD [])
  handler : c.handler = (s.replyWith (c.app.options.getD [])).handler

lemma parent_eq_ok {p : Option Parent} (h : s.parent = .ok p) :
    p.map Parent.outer = s.group.map (fun name => { name := name }) ∧
    p.bind Parent.inner? = s.group.bind fun group => s.subgroup.map fun name =>
      { name := name, parent := { name := group } } := by
  unfold parent at h
  generalize s.group = group, s.subgroup = subgroup at h ⊢
  rcases group with _ | group
  · rcases subgroup with _ | subgroup
    · cases h
      exact ⟨rfl, rfl⟩
    · cases h
  · rcases subgroup with _ | subgroup
    · cases h
      exact ⟨rfl, rfl⟩
    · cases h
      exact ⟨rfl, rfl⟩

lemma ofKind_eq {word name : String} {kind : CommandType} (h : (word, kind) ∈ CommandType.words) :
    Declaration.ofKind kind name =
      ⟨kind, name, if kind = .chatInput then some "Description not set" else none, true, none, 0, 60, .user, none,
        [], none⟩ := by
  simp only [CommandType.words, List.mem_cons, Prod.mk.injEq, List.not_mem_nil, or_false] at h
  rcases h with ⟨-, rfl⟩ | ⟨-, rfl⟩ | ⟨-, rfl⟩ | ⟨-, rfl⟩ <;> rfl

lemma says_of_declaration (h : s.declaration = .ok d) : s.Says d := by
  obtain ⟨kind, hkind, h⟩ := except_bind_eq_ok.mp h
  obtain ⟨scope, hscope, h⟩ := except_bind_eq_ok.mp h
  obtain ⟨parent, hparent, h⟩ := except_bind_eq_ok.mp h
  obtain ⟨arguments, harguments, h⟩ := except_bind_eq_ok.mp h
  have hword := CommandType.ofWord?_eq_some.mp (meaning_eq_ok.mp hkind)
  rw [ofKind_eq hword] at h
  obtain rfl := Except.ok.inj h
  obtain ⟨houter, hinner⟩ := parent_eq_ok hparent
  refine ⟨hword, rfl, rfl, rfl, rfl, rfl, rfl, ThrottleScope.ofWord?_eq_some.mp (meaning_eq_ok.mp hscope), houter,
    hinner, ?_, ?_⟩
  · rw [List.forall₂_map_right_iff]
    exact (mapM_eq_ok.mp harguments).imp fun _ _ => OptionSection.reads_of_argument
  · rw [replyWith, List.map_map]
    rfl

lemma options_of_declares (hc : d.Declares c) : c.app.options.getD [] = d.arguments.map (·.option) := by
  rw [hc.options]
  cases d.arguments <;> simp

lemma Says.describes (hd : s.Says d) (hc : d.Declares c) : s.Describes c where
  kind := hc.kind ▸ hd.kind
  name := hc.name.trans hd.name
  cooldown := hc.cooldown.1.trans hd.cooldown
  cooldownScale := hc.cooldown.2.1.trans hd.cooldownScale
  cooldownScope := hc.cooldown.2.2 ▸ hd.cooldownScope
  arguments := options_of_declares hc ▸ hd.arguments
  handler := by
    rw [options_of_declares hc]
    exact Option.some.inj (hc.handler.symm.trans hd.handler)

end CommandSection

variable {sections : List CommandSection} {r r' : Registry}

lemma registerSections_cons {s : CommandSection} {d : Declaration} (hd : s.declaration = .ok d) :
    registerSections (s :: sections) r = match r.register d with
      | (.ok _, r) => registerSections sections r
      | (.error e, r) => (.error e, r) := by
  rcases h : r.register d with ⟨_ | _, r⟩ <;> simp only [registerSections, hd, h]

lemma registerSections_eq_ok (h : registerSections sections r = (.ok (), r')) :
    ∃ added, r'.commands = r.commands ++ added ∧ List.Forall₂ CommandSection.Describes sections added := by
  induction sections generalizing r with
  | nil =>
    obtain rfl : r = r' := congrArg Prod.snd h
    exact ⟨[], by simp, .nil⟩
  | cons s sections ih =>
    cases hd : s.declaration with
    | error e =>
      rw [registerSections, hd] at h
      cases h
    | ok d =>
      rw [registerSections_cons hd] at h
      cases hregister : r.register d with
      | mk result next =>
        rw [hregister] at h
        cases result with
        | error e => cases h
        | ok c =>
          obtain ⟨hdeclares, -, -, rfl⟩ := Registry.register_eq_ok_iff.mp hregister
          obtain ⟨added, hadded, hdescribes⟩ := ih h
          have hdescribed := (CommandSection.says_of_declaration hd).describes hdeclares
          exact ⟨c :: added, by simp [hadded], .cons hdescribed hdescribes⟩

theorem BotConfig.register_eq_ok {c : BotConfig} {n : Nat} (h : c.register r = (.ok n, r')) :
    ∃ added, r'.commands = r.commands ++ added ∧ List.Forall₂ CommandSection.Describes c.commands added := by
  unfold register at h
  cases hresult : registerSections c.commands r with
  | mk result next =>
    rw [hresult] at h
    obtain ⟨hok, rfl⟩ := Prod.mk.inj h
    cases result with
    | error e => cases hok
    | ok u => exact registerSections_eq_ok hresult

end DiscordBot
