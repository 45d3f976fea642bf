import DiscordBot.Proofs.Registry.Reachable
import Mathlib.Data.List.Basic

/-! Qualified names. The words of a command that is typed have no spaces in them, so that its name and
its groups can be read off its qualified name. -/

namespace DiscordBot

namespace Text

lemma joinWith_toList {separator : String} {ss : List String} :
    (joinWith separator ss).toList = separator.toList.intercalate (ss.map String.toList) := by
  induction ss with
  | nil => rfl
  | cons s ss ih =>
    cases ss with
    | nil => simp [joinWith]
    | cons t ss =>
      rw [joinWith, String.toList_append, String.toList_append, ih, List.map_cons, List.map_cons,
        List.map_cons, List.intercalate_cons_cons]

lemma splitOn_joinWith {ss : List String} (hss : ss ≠ []) (hs : ∀ s ∈ ss, ' ' ∉ s.toList) :
    (List.splitOn ' ' (joinWith " " ss).toList).map String.ofList = ss := by
  have hsplit : List.splitOn ' ' (joinWith " " ss).toList = ss.map String.toList := by
    rw [joinWith_toList]
    exact List.splitOn_intercalate ' ' (by simpa using hs) (by simpa using hss)
  rw [hsplit, List.map_map]
  exact List.map_id'' (fun s => String.ofList_toList) ss

end Text

lemma NameRule.not_mem_of_typed {name : String} (h : typed.allows name = true) :
    ' ' ∉ name.toList := by
  intro hmem
  simp only [allows, Bool.and_eq_true, List.all_eq_true] at h
  exact absurd (h.2 ' ' hmem) (by decide)

namespace RegisteredCommand

def words (c : RegisteredCommand) : List String :=
  (c.group.map (·.name)).toList ++ (c.subgroup.map (·.name)).toList ++ [c.app.name]

lemma words_ne_nil (c : RegisteredCommand) : c.words ≠ [] := by simp [words]

lemma qualifiedName_eq (c : RegisteredCommand) : c.qualifiedName = Text.joinWith " " c.words := rfl

end RegisteredCommand

structure CommandName where
  group : Option String
  subgroup : Option String
  name : String
  deriving DecidableEq

namespace CommandName

def ofWords? : List String → Option CommandName
  | [name] => some ⟨none, none, name⟩
  | [group, name] => some ⟨some group, none, name⟩
  | [group, subgroup, name] => some ⟨some group, some subgroup, name⟩
  | _ => none

def read? (qualified : String) : Option CommandName :=
  ofWords? ((List.splitOn ' ' qualified.toList).map String.ofList)

lemma ofWords?_words {c : RegisteredCommand} (h : c.group = none → c.subgroup = none) :
    ofWords? c.words = some ⟨c.group.map (·.name), c.subgroup.map (·.name), c.app.name⟩ := by
  unfold RegisteredCommand.words
  cases hg : c.group with
  | none => simp [h hg, ofWords?]
  | some g => cases c.subgroup <;> simp [ofWords?]

end CommandName

namespace Declaration

lemma checkParent_eq_ok {d : Declaration} (h : d.checkParent = .ok ()) :
    (∀ g ∈ d.parent.map (·.outer), NameRule.typed.allows g.name = true) ∧
      ∀ s ∈ d.parent.bind (·.inner?), NameRule.typed.allows s.name = true := by
  unfold checkParent at h
  cases hp : d.parent with
  | none => simp
  | some p =>
    rw [hp] at h
    cases p with
    | group g => simpa [Parent.outer, Parent.inner?] using require_eq_ok.mp h
    | subgroup s =>
      obtain ⟨⟨⟩, hg, hs⟩ := except_bind_eq_ok.mp h
      simpa [Parent.outer, Parent.inner?] using ⟨require_eq_ok.mp hg, require_eq_ok.mp hs⟩

end Declaration

namespace Registry

variable {r : Registry} {c d : RegisteredCommand}

lemma Reachable.typed_words (h : r.Reachable) (hc : c ∈ r.commands) (hk : c.app.kind = .chatInput) :
    ∀ w ∈ c.words, ' ' ∉ w.toList := by
  obtain ⟨d, -, hcheck⟩ := h.declared hc
  obtain ⟨_, _, hname, -, -, -, -, -, -, hparent, rfl⟩ := Declaration.check_eq_ok.mp hcheck
  have hrule : d.nameRule = .typed := by
    change d.kind = .chatInput at hk
    simp [Declaration.nameRule, hk]
  have hown : NameRule.typed.allows d.name = true := by
    rw [← hrule]
    exact require_eq_ok.mp hname
  obtain ⟨hgroup, hsub⟩ := Declaration.checkParent_eq_ok hparent
  intro w hw
  apply NameRule.not_mem_of_typed
  rcases List.mem_append.mp hw with hw | hw
  · rcases List.mem_append.mp hw with hw | hw
    · obtain ⟨g, hg, rfl⟩ := Option.map_eq_some_iff.mp (Option.mem_toList.mp hw)
      exact hgroup g hg
    · obtain ⟨s, hs, rfl⟩ := Option.map_eq_some_iff.mp (Option.mem_toList.mp hw)
      exact hsub s hs
  · rw [List.mem_singleton.mp hw]
    exact hown

lemma Reachable.read_qualifiedName (h : r.Reachable) (hc : c ∈ r.commands) (hk : c.app.kind = .chatInput) :
    CommandName.read? c.qualifiedName =
      some ⟨c.group.map (·.name), c.subgroup.map (·.name), c.app.name⟩ := by
  have hnested : c.group = none → c.subgroup = none := by
    intro hnone
    cases hs : c.subgroup with
    | none => rfl
    | some s =>
      rw [h.group_of_subgroup hc hs] at hnone
      cases hnone
  rw [CommandName.read?, RegisteredCommand.qualifiedName_eq,
    Text.splitOn_joinWith c.words_ne_nil (h.typed_words hc hk)]
  exact CommandName.ofWords?_words hnested

lemma Reachable.eq_of_qualifiedName (h : r.Reachable) (hc : c ∈ r.commands) (hd : d ∈ r.commands)
    (hck : c.app.kind = .chatInput) (hdk : d.app.kind = .chatInput)
    (hguild : c.app.guildId = d.app.guildId) (heq : c.qualifiedName = d.qualifiedName) : c = d := by
  have hread := h.read_qualifiedName hc hck
  rw [heq, h.read_qualifiedName hd hdk] at hread
  obtain ⟨hgroup, hsub, hname⟩ := CommandName.mk.inj (Option.some.inj hread)
  apply h.eq_of_key_eq hc hd
  simp only [RegisteredCommand.key, hname, hguild, hck, hdk, hgroup, hsub]

/-- The name and the groups of a typed command can be read off its qualified name. No two typed commands of
one guild, or of none, share theirs. -/
theorem Reachable.qualified_names (h : r.Reachable) :
    (∀ c ∈ r.commands, c.app.kind = .chatInput → CommandName.read? c.qualifiedName =
      some ⟨c.group.map (·.name), c.subgroup.map (·.name), c.app.name⟩) ∧
    r.commands.Pairwise fun c d => c.app.kind = .chatInput → d.app.kind = .chatInput →
      c.app.guildId = d.app.guildId → c.qualifiedName ≠ d.qualifiedName := by
  refine ⟨fun c => h.read_qualifiedName, ?_⟩
  have hkeys : r.commands.Pairwise fun c d => c.key ≠ d.key := List.pairwise_map.mp h.nodup_keys
  refine hkeys.imp_of_mem ?_
  intro c d hc hd hne hck hdk hguild heq
  exact hne (congrArg RegisteredCommand.key (h.eq_of_qualifiedName hc hd hck hdk hguild heq))

def plays : Registry :=
  let play : Declaration := { Declaration.chatInput "play" with handler := some fun _ _ => .ok .none }
  let music : Group := { name := "music" }
  registerAll [play, { play with guild := some "7" }, { play with parent := some (.group music) },
    { play with parent := some (.subgroup { name := "queue", parent := music }) }]

lemma plays_reachable : plays.Reachable := reachable_registerAll (by simp [Declaration.chatInput])

theorem plays_qualified_names :
    (plays.Reachable ∧ ∀ c ∈ plays.commands, c.app.kind = .chatInput) ∧
    plays.commands.map (·.qualifiedName) = ["play", "play", "music play", "music queue play"] ∧
    (plays.commands.map fun c => CommandName.read? c.qualifiedName) = [some ⟨none, none, "play"⟩,
      some ⟨none, none, "play"⟩, some ⟨some "music", none, "play"⟩,
      some ⟨some "music", some "queue", "play"⟩] ∧
    plays.commands.Pairwise fun c d => c.app.guildId = d.app.guildId →
      c.qualifiedName ≠ d.qualifiedName := by
  have htyped : ∀ c ∈ plays.commands, c.app.kind = .chatInput := by decide
  obtain ⟨hread, hapart⟩ := plays_reachable.qualified_names
  refine ⟨⟨plays_reachable, htyped⟩, by decide, ?_, ?_⟩
  · rw [List.map_congr_left fun c hc => hread c hc (htyped c hc)]
    decide
  · exact hapart.imp_of_mem fun hc hd hne => hne (htyped _ hc) (htyped _ hd)

end Registry

end DiscordBot
