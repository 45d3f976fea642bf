import DiscordBot.Proofs.Dispatch.Arguments
import Mathlib.Data.List.Nodup

/-! The arguments that a handler gets, entry by entry: what the command declares, what the caller gave, and
what is known of the target. -/

namespace DiscordBot

namespace Arguments

variable {es xs ys : List Entry} {name n : String} {value v : Option Json}

lemma lookup_eq_some_iff_mem (h : (es.map Prod.fst).Nodup) : es.lookup name = some v ↔ (name, v) ∈ es := by
  rw [List.lookup_eq_some_iff]
  constructor
  · rintro ⟨before, after, rfl, -⟩
    exact List.mem_append_right _ List.mem_cons_self
  · intro hmem
    obtain ⟨before, after, rfl⟩ := List.append_of_mem hmem
    refine ⟨before, after, rfl, fun e he => bne_iff_ne.mpr ?_⟩
    rintro rfl
    rw [List.map_append, List.nodup_append] at h
    exact h.2.2 _ (List.mem_map_of_mem he) _ List.mem_cons_self rfl

lemma mem_names_put : n ∈ (put name value es).map Prod.fst ↔ n = name ∨ n ∈ es.map Prod.fst := by
  induction es with
  | nil => simp [put]
  | cons e es ih =>
    unfold put
    by_cases he : e.1 = name
    · simp [he]
    · simp only [beq_false_of_ne he, Bool.false_eq_true, if_false, List.map_cons, List.mem_cons, ih]
      exact or_left_comm

lemma nodup_names_put (h : (es.map Prod.fst).Nodup) : ((put name value es).map Prod.fst).Nodup := by
  induction es with
  | nil => simp [put]
  | cons e es ih =>
    obtain ⟨hfree, hes⟩ := List.nodup_cons.mp h
    unfold put
    by_cases he : e.1 = name
    · simpa [he] using h
    · rw [if_neg (by simpa using he), List.map_cons, List.nodup_cons, mem_names_put]
      exact ⟨fun hmem => hmem.elim he hfree, ih hes⟩

lemma nodup_names_ofEntries (es : List Entry) : ((ofEntries es).entries.map Prod.fst).Nodup := by
  induction es using List.reverseRecOn with
  | nil => exact List.nodup_nil
  | append_singleton es e ih =>
    rw [ofEntries, List.foldl_concat]
    exact nodup_names_put ih

lemma mem_ofEntries : (name, v) ∈ (ofEntries es).entries ↔ lastOf? es name = some v := by
  rw [← lookup_eq_some_iff_mem (nodup_names_ofEntries es), lookup_ofEntries]

lemma lastOf?_append : lastOf? (xs ++ ys) name = (lastOf? ys name).or (lastOf? xs name) := by
  rw [lastOf?, List.reverse_append, List.lookup_append]
  rfl

lemma lastOf?_eq_none_iff : lastOf? es name = none ↔ name ∉ es.map Prod.fst := by
  simp only [lastOf?, List.lookup_eq_none_iff, List.mem_reverse, bne_iff_ne, List.mem_map, not_exists,
    not_and]
  exact forall₂_congr fun e _ => ne_comm

lemma lastOf?_map_eq_some_iff {α : Type} {f : α → Entry} {xs : List α} : lastOf? (xs.map f) name = some v ↔
    ∃ before x after, xs = before ++ x :: after ∧ f x = (name, v) ∧ ∀ y ∈ after, (f y).1 ≠ name := by
  rw [lastOf?, ← List.map_reverse, List.lookup_eq_some_iff]
  constructor
  · rintro ⟨last, first, hmap, hne⟩
    obtain ⟨after, rest, hxs, rfl, hrest⟩ := List.map_eq_append_iff.mp hmap
    obtain ⟨x, before, rfl, hx, -⟩ := List.map_eq_cons_iff.mp hrest
    refine ⟨before.reverse, x, after.reverse, ?_, hx, fun y hy => ?_⟩
    · rw [← List.reverse_reverse xs, hxs]
      simp
    · exact (bne_iff_ne.mp (hne _ (List.mem_map_of_mem (List.mem_reverse.mp hy)))).symm
  · rintro ⟨before, x, after, rfl, hx, hne⟩
    refine ⟨after.reverse.map f, before.reverse.map f, by simp [hx], fun e he => ?_⟩
    obtain ⟨y, hy, rfl⟩ := List.mem_map.mp he
    exact bne_iff_ne.mpr (hne y (List.mem_reverse.mp hy)).symm

lemma lastOf?_undecided {names : List String} :
    lastOf? (names.map fun n => (n, none)) name = some v ↔ name ∈ names ∧ v = none := by
  have hnone : ∀ w, lastOf? (names.map fun n => (n, none)) name = some w → name ∈ names ∧ w = none := by
    intro w hw
    obtain ⟨before, x, after, rfl, hx, -⟩ := lastOf?_map_eq_some_iff.mp hw
    obtain ⟨rfl, rfl⟩ := Prod.mk.inj hx
    exact ⟨List.mem_append_right _ List.mem_cons_self, rfl⟩
  refine ⟨hnone v, ?_⟩
  rintro ⟨hname, rfl⟩
  cases hlast : lastOf? (names.map fun n => (n, none)) name with
  | none =>
    rw [lastOf?_eq_none_iff, List.map_map] at hlast
    exact absurd (by simpa using hname) hlast
  | some w => rw [(hnone w hlast).2]

lemma lastOf?_eq_some_iff_mem (h : (es.map Prod.fst).Nodup) : lastOf? es name = some v ↔ (name, v) ∈ es := by
  rw [lastOf?, lookup_eq_some_iff_mem, List.mem_reverse]
  rwa [List.map_reverse, List.nodup_reverse]

lemma contains_iff {args : Arguments} : args.contains name = true ↔ ∃ v, args.entries.lookup name = some v :=
  Option.isSome_iff_exists

structure Silent (args : Arguments) (name : String) : Prop where
  contained : args.contains name = true
  value : args.get? name = none
  string : args.string? name = none
  integer : args.integer? name = none
  number : args.number? name = none
  bool : args.bool? name = none
  snowflake : args.snowflake? name = none
  read : ∀ (α : Type) [JsonForm α], args.read α name = .ok none

lemma silent_of_no_value {args : Arguments} (h : args.entries.lookup name = some none) :
    args.Silent name := by
  have hvalue : args.get? name = none := by rw [get?, h, Option.join_some]
  constructor
  · exact contains_iff.mpr ⟨none, h⟩
  · exact hvalue
  · rw [string?, hvalue, Option.bind_none]
  · rw [integer?, hvalue, Option.bind_none]
  · rw [number?, hvalue, Option.bind_none]
  · rw [bool?, hvalue, Option.bind_none]
  · rw [snowflake?, hvalue, Option.bind_none]
  · intro α _
    rw [read, hvalue]

end Arguments

open Arguments (Entry lastOf? ofEntries)

def CommandType.targetParts : CommandType → List (String × String)
  | .user => [("user", "users"), ("member", "members")]
  | .message => [("message", "messages")]
  | _ => []

def InteractionData.Resolves (data : InteractionData) (part id : String) (j : Json) : Prop :=
  ∃ parts members, data.resolved = some (.obj parts) ∧ parts.lookup part = some (.obj members) ∧
    members.lookup id = some j

def Interaction.Sets (i : Interaction) (kind : CommandType) (name : String) : Prop :=
  ∃ data target, i.data = some data ∧ data.targetId = some target ∧
    (name = "target_id" ∨ ∃ part, (name, part) ∈ kind.targetParts)

namespace Dispatcher

/-- What a handler is given under a name. -/
inductive Handed (c : RegisteredCommand) (i : Interaction) (path : CommandPath) : String → Option Json → Prop
  | target {data : InteractionData} {target : Snowflake} : i.data = some data → data.targetId = some target →
      Handed c i path "target_id" (some (.str (toString target.id.toNat)))
  | resolved {data : InteractionData} {target : Snowflake} {name part : String} {value : Option Json} :
      i.data = some data → data.targetId = some target → (name, part) ∈ c.app.kind.targetParts →
      (∀ j, value = some j ↔ data.Resolves part (toString target.id.toNat) j) → Handed c i path name value
  | given {before after : List InteractionOption} {o : InteractionOption} : ¬i.Sets c.app.kind o.name →
      path.options = before ++ o :: after → (∀ p ∈ after, p.name ≠ o.name) → Handed c i path o.name o.value
  | declared {o : CommandOption} : ¬i.Sets c.app.kind o.name → o ∈ c.app.options.getD [] →
      (∀ p ∈ path.options, p.name ≠ o.name) → Handed c i path o.name none

variable {data : InteractionData} {kind : CommandType} {i : Interaction} {name : String} {v : Option Json}

lemma resolved_eq_some_iff {part id : String} {j : Json} :
    resolved data part id = some j ↔ data.Resolves part id j := by
  have hget : ∀ {k : Json} {key : String} {w : Json}, k.get? key = some w ↔
      ∃ members, k = .obj members ∧ members.lookup key = some w := by
    intro k key w
    cases k <;> simp [Json.get?]
  simp only [resolved, Option.bind_eq_some_iff, hget, InteractionData.Resolves]
  constructor
  · rintro ⟨_, ⟨_, hdata, parts, rfl, hpart⟩, members, rfl, hmember⟩
    exact ⟨parts, members, hdata, hpart, hmember⟩
  · rintro ⟨parts, members, hdata, hpart, hmember⟩
    exact ⟨_, ⟨_, hdata, parts, rfl, hpart⟩, members, rfl, hmember⟩

lemma targetEntries_eq (kind : CommandType) (data : InteractionData) : targetEntries kind data =
    match data.targetId with
    | none => []
    | some target => ("target_id", some (.str target.text)) ::
        kind.targetParts.map fun p => (p.1, resolved data p.2 target.text) := by
  cases kind <;> rfl

lemma nodup_names_targetEntries (kind : CommandType) (data : InteractionData) :
    ((targetEntries kind data).map Prod.fst).Nodup := by
  rw [targetEntries_eq]
  cases data.targetId with
  | none => exact List.nodup_nil
  | some target => cases kind <;> simp [CommandType.targetParts]

lemma mem_targetEntries {target : Snowflake} (h : data.targetId = some target) :
    (name, v) ∈ targetEntries kind data ↔ name = "target_id" ∧ v = some (.str target.text) ∨
      ∃ part, (name, part) ∈ kind.targetParts ∧ ∀ j, v = some j ↔ data.Resolves part target.text j := by
  simp only [targetEntries_eq, h, List.mem_cons, Prod.mk.injEq, List.mem_map, Prod.exists]
  refine or_congr_right ⟨?_, ?_⟩
  · rintro ⟨_, part, hmem, rfl, rfl⟩
    exact ⟨part, hmem, fun j => resolved_eq_some_iff⟩
  · rintro ⟨part, hmem, hv⟩
    refine ⟨name, part, hmem, rfl, Option.ext fun j => ?_⟩
    rw [resolved_eq_some_iff, hv]

lemma lastOf?_target : lastOf? ((i.data.map (targetEntries kind)).getD []) name = some v ↔
    ∃ data target, i.data = some data ∧ data.targetId = some target ∧
      (name = "target_id" ∧ v = some (.str target.text) ∨
        ∃ part, (name, part) ∈ kind.targetParts ∧ ∀ j, v = some j ↔ data.Resolves part target.text j) := by
  cases hdata : i.data with
  | none => simp [lastOf?]
  | some data =>
    simp only [Option.map_some, Option.getD_some, Option.some.injEq, exists_and_left, exists_eq_left',
      Arguments.lastOf?_eq_some_iff_mem (nodup_names_targetEntries kind data)]
    cases htarget : data.targetId with
    | none => simp [targetEntries_eq, htarget]
    | some target => simp [mem_targetEntries htarget]

lemma lastOf?_target_eq_none_iff :
    lastOf? ((i.data.map (targetEntries kind)).getD []) name = none ↔ ¬i.Sets kind name := by
  rw [← not_iff_not, not_not, ← ne_eq, Option.ne_none_iff_exists']
  constructor
  · rintro ⟨v, hv⟩
    obtain ⟨data, target, hdata, htarget, hentry⟩ := lastOf?_target.mp hv
    exact ⟨data, target, hdata, htarget, hentry.imp And.left fun ⟨part, hpart, _⟩ => ⟨part, hpart⟩⟩
  · rintro ⟨data, target, hdata, htarget, rfl | ⟨part, hpart⟩⟩
    · exact ⟨_, lastOf?_target.mpr ⟨data, target, hdata, htarget, .inl ⟨rfl, rfl⟩⟩⟩
    · exact ⟨resolved data part target.text, lastOf?_target.mpr ⟨data, target, hdata, htarget,
        .inr ⟨part, hpart, fun j => resolved_eq_some_iff⟩⟩⟩

variable {c : RegisteredCommand} {path : CommandPath}

lemma mem_arguments : (name, v) ∈ (arguments c i path).entries ↔
    lastOf? ((i.data.map (targetEntries c.app.kind)).getD []) name = some v ∨
      ¬i.Sets c.app.kind name ∧ (lastOf? (path.options.map fun o => (o.name, o.value)) name = some v ∨
        (∀ p ∈ path.options, p.name ≠ name) ∧
          name ∈ (c.app.options.getD []).map (·.name) ∧ v = none) := by
  have hgiven : lastOf? (path.options.map fun o => (o.name, o.value)) name = none ↔
      ∀ p ∈ path.options, p.name ≠ name := by
    simp [Arguments.lastOf?_eq_none_iff]
  -- The target is put in last, over what was given, and that over what is declared.
  rw [arguments_eq, Arguments.mem_ofEntries, argumentEntries, Arguments.lastOf?_append,
    Arguments.lastOf?_append, Option.or_eq_some_iff, Option.or_eq_some_iff, Arguments.lastOf?_undecided,
    lastOf?_target_eq_none_iff, hgiven]

lemma handed_iff : (name, v) ∈ (arguments c i path).entries ↔ Handed c i path name v := by
  rw [mem_arguments, lastOf?_target, Arguments.lastOf?_map_eq_some_iff]
  constructor
  · rintro (⟨data, target, hdata, htarget, ⟨rfl, rfl⟩ | ⟨part, hpart, hv⟩⟩ | ⟨hset, hrest⟩)
    · exact .target hdata htarget
    · exact .resolved hdata htarget hpart hv
    · rcases hrest with ⟨before, o, after, hpath, ho, hlast⟩ | ⟨hgiven, hname, rfl⟩
      · obtain ⟨rfl, rfl⟩ := Prod.mk.inj ho
        exact .given hset hpath hlast
      · obtain ⟨o, ho, rfl⟩ := List.mem_map.mp hname
        exact .declared hset ho hgiven
  · intro h
    cases h with
    | target hdata htarget => exact .inl ⟨_, _, hdata, htarget, .inl ⟨rfl, rfl⟩⟩
    | resolved hdata htarget hpart hv => exact .inl ⟨_, _, hdata, htarget, .inr ⟨_, hpart, hv⟩⟩
    | given hset hpath hlast => exact .inr ⟨hset, .inl ⟨_, _, _, hpath, rfl, hlast⟩⟩
    | declared hset ho hgiven => exact .inr ⟨hset, .inr ⟨hgiven, List.mem_map_of_mem ho, rfl⟩⟩

lemma contains_arguments_iff : (arguments c i path).contains name = true ↔
    name ∈ (c.app.options.getD []).map (·.name) ∨ name ∈ path.options.map (·.name) ∨
      i.Sets c.app.kind name := by
  rw [← not_iff_not, Bool.not_eq_true, Arguments.contains, Option.isSome_eq_false_iff,
    Option.isNone_iff_eq_none, arguments_eq, Arguments.lookup_ofEntries, argumentEntries,
    Arguments.lastOf?_append, Arguments.lastOf?_append, Option.or_eq_none_iff, Option.or_eq_none_iff,
    lastOf?_target_eq_none_iff, Arguments.lastOf?_eq_none_iff, Arguments.lastOf?_eq_none_iff]
  simp only [List.map_map, Function.comp_def, not_or]
  tauto

/-- The names that a handler is given are those that its command declares, those that the caller gave, and
those of a target. Each has one entry, that of the target before the last one given before none, and one
without a value is there but cannot be read. -/
theorem arguments_handed (c : RegisteredCommand) (i : Interaction) (path : CommandPath) :
    ((arguments c i path).entries.map Prod.fst).Nodup ∧
    (∀ name, (arguments c i path).contains name = true ↔
      name ∈ (c.app.options.getD []).map (·.name) ∨ name ∈ path.options.map (·.name) ∨
        i.Sets c.app.kind name) ∧
    (∀ name value, (name, value) ∈ (arguments c i path).entries ↔ Handed c i path name value) ∧
    ∀ name, (name, none) ∈ (arguments c i path).entries → (arguments c i path).Silent name := by
  have hnodup : ((arguments c i path).entries.map Prod.fst).Nodup := by
    rw [arguments_eq]
    exact Arguments.nodup_names_ofEntries _
  exact ⟨hnodup, fun _ => contains_arguments_iff, fun _ _ => handed_iff,
    fun _ hmem => Arguments.silent_of_no_value ((Arguments.lookup_eq_some_iff_mem hnodup).mpr hmem)⟩

def profile : RegisteredCommand := (Declaration.user "Profile").command (fun _ _ => .ok .none) none

def profileData : InteractionData :=
  { (default : InteractionData) with
    targetId := some ⟨42⟩
    resolved := some (.obj [("users", .obj [("42", .obj [("username", .str "ada")])])]) }

def profileCall : Interaction := { (default : Interaction) with data := some profileData }

def profilePath : CommandPath :=
  ⟨"Profile", none, none, [⟨"user", .string, some (.str "bob"), none, none⟩]⟩

theorem profile_arguments_handed :
    let args := arguments profile profileCall profilePath
    (("user", some (.obj [("username", .str "ada")])) ∈ args.entries ∧
      args.contains "target_id" = true) ∧
    ("member", none) ∈ args.entries ∧ args.Silent "member" := by
  intro args
  obtain ⟨-, hnames, hentries, hsilent⟩ := arguments_handed profile profileCall profilePath
  have hknown : resolved profileData "users" "42" = some (.obj [("username", .str "ada")]) := rfl
  have hunknown : resolved profileData "members" "42" = none := rfl
  have huser : Handed profile profileCall profilePath "user" (some (.obj [("username", .str "ada")])) :=
    .resolved rfl rfl List.mem_cons_self fun j => hknown ▸ resolved_eq_some_iff
  have hmember : Handed profile profileCall profilePath "member" none :=
    .resolved rfl rfl (List.mem_cons_of_mem _ List.mem_cons_self) fun j => hunknown ▸ resolved_eq_some_iff
  have hset : profileCall.Sets profile.app.kind "target_id" := ⟨_, _, rfl, rfl, .inl rfl⟩
  have hmem := (hentries _ _).mpr hmember
  exact ⟨⟨(hentries _ _).mpr huser, (hnames _).mpr (.inr (.inr hset))⟩, hmem, hsilent _ hmem⟩

end Dispatcher

end DiscordBot
