import DiscordBot.Proofs.Config.Token

/-! A text is plain parts with references between them. Substitution keeps the parts and puts the value of each
reference in its place. -/

namespace DiscordBot.Config

/-- A reference stands in a text where none that was begun before it is still open. -/
def Refers (cs name : List Char) : Prop :=
  ∃ before after, Closed before ∧ name ≠ [] ∧ '\x7d' ∉ name ∧
    cs = before ++ '$' :: '\x7b' :: (name ++ '\x7d' :: after)

section Pieces

variable {cs before after name : List Char} {state : Option (List Char)}

lemma closed_nil : Closed [] := closed_of_plain nofun

lemma Closed.behind (h : Closed after) (before : List Char) : Closed (before ++ '\x7d' :: after) := by
  intro front back heq
  rcases List.append_eq_append_iff.mp heq with ⟨gap, rfl, hgap⟩ | ⟨gap, rfl, hgap⟩
  · cases gap with
    | nil => simp at hgap
    | cons c gap => exact h gap back (List.cons.inj hgap).2
  · -- a reference that is begun in front of the bracket is closed by it at the latest
    rcases gap with _ | ⟨c, _ | ⟨d, gap⟩⟩
    · simp at hgap
    · simp at hgap
    · simp only [List.cons_append, List.cons.injEq] at hgap
      rw [hgap.2.2]
      simp

lemma Refers.behind (h : Refers cs name) (front : List Char) : Refers (front ++ '\x7d' :: cs) name := by
  obtain ⟨before, after, hclosed, hne, hname, rfl⟩ := h
  refine ⟨front ++ '\x7d' :: before, after, hclosed.behind front, hne, hname, ?_⟩
  rw [List.append_assoc, List.cons_append]

def begun : Option (List Char) → List Char
  | none => []
  | some name => '$' :: '\x7b' :: name

lemma written_pieces (state : Option (List Char)) (cs : List Char) :
    (environmentPieces state cs).flatMap (·.replacement fun _ => none) = begun state ++ cs := by
  fun_induction environmentPieces state cs with
  | case1 => rfl
  | case2 name => simp [begun, List.flatMap_map, EnvironmentPiece.replacement]
  | case3 name cs ih =>
    rw [List.flatMap_cons, ih]
    simp [begun, EnvironmentPiece.replacement]
  | case4 name c cs hc ih => simp [ih, begun]
  | case5 c cs hc ih =>
    rw [List.flatMap_cons, List.flatMap_cons, List.flatMap_cons, ih, beq_iff_eq.mp hc]
    rfl
  | case6 c cs hc ih => simp [ih, begun]
  | case7 c cs hplain ih =>
    rw [List.flatMap_cons, ih]
    rfl

lemma refers_of_mem (hstate : ∀ first ∈ state, first ≠ [] ∧ '\x7d' ∉ first)
    (hmem : .reference name ∈ environmentPieces state cs) : Refers (begun state ++ cs) name := by
  -- The state is what has been read of a reference that is still open.
  fun_induction environmentPieces state cs with
  | case1 => simp at hmem
  | case2 first => simp at hmem
  | case3 first cs ih =>
    rcases List.mem_cons.mp hmem with heq | hmem
    · obtain rfl := EnvironmentPiece.reference.inj heq
      obtain ⟨hne, hname⟩ := hstate name rfl
      exact ⟨[], cs, closed_nil, hne, hname, rfl⟩
    · exact (ih (by simp) hmem).behind (begun (some first))
  | case4 first c cs hc ih =>
    have hstate' : ∀ longer ∈ some (first ++ [c]), longer ≠ [] ∧ '\x7d' ∉ longer := by
      rintro longer ⟨⟩
      obtain ⟨-, hfirst⟩ := hstate first rfl
      refine ⟨by simp, ?_⟩
      rw [List.mem_append, List.mem_singleton]
      exact fun h => h.elim hfirst fun heq => hc heq.symm
    simpa [begun] using ih hstate' hmem
  | case5 c cs hc ih =>
    rw [beq_iff_eq.mp hc]
    exact (ih (by simp) (by simpa using hmem)).behind ['$', '\x7b']
  | case6 c cs hc ih =>
    have hstate' : ∀ first ∈ some [c], first ≠ [] ∧ '\x7d' ∉ first := by
      rintro first ⟨⟩
      exact ⟨by simp, fun h => hc (beq_iff_eq.mpr (List.mem_singleton.mp h).symm)⟩
    exact ih hstate' hmem
  | case7 c cs hplain ih =>
    obtain ⟨before, after, hclosed, hne, hname, rfl⟩ := ih (by simp) (by simpa using hmem)
    refine ⟨c :: before, after, ?_, hne, hname, rfl⟩
    -- no reference begins with this character, so that none is open behind it
    rintro (_ | ⟨_, front⟩) back heq
    · obtain ⟨rfl, rfl⟩ := List.cons.inj heq
      cases back with
      | nil => exact (hplain _ _ rfl rfl).elim
      | cons d back => exact (hplain _ _ rfl rfl).elim
    · exact hclosed front back (List.cons.inj heq).2

theorem refers_iff : Refers cs name ↔ .reference name ∈ environmentPieces none cs := by
  constructor
  · rintro ⟨before, after, hclosed, hne, hname, rfl⟩
    rw [environmentPieces_append hclosed (by simp), environmentPieces_reference hne hname]
    simp
  · exact refers_of_mem (by simp)

end Pieces

section Texts

variable {env : Environment} {s a b name : String}

lemma substitute_of_unset (h : ∀ name : String, Refers s.toList name.toList → env name = none) :
    substitute env s = s := by
  have hpieces : ∀ piece ∈ environmentPieces none s.toList,
      piece.replacement env = piece.replacement fun _ => none := by
    intro piece hmem
    cases piece with
    | text c => rfl
    | reference name =>
      have hunset := h (String.ofList name) (by rw [String.toList_ofList]; exact refers_iff.mpr hmem)
      rw [EnvironmentPiece.replacement, hunset]
      rfl
  rw [substitute, List.flatMap_congr hpieces, written_pieces]
  exact String.ofList_toList

lemma substitute_between (ha : Closed a.toList) (hne : name ≠ "") (hname : '\x7d' ∉ name.toList) :
    substitute env (a ++ reference name ++ b) =
      substitute env a ++ (env name).getD (reference name) ++ substitute env b := by
  have htext : (a ++ reference name ++ b).toList =
      a.toList ++ '$' :: '\x7b' :: (name.toList ++ '\x7d' :: b.toList) := by
    simp [toList_reference]
  rw [← String.toList_inj, toList_substitute, htext, replaced_append ha (by simp),
    replaced_reference hne hname]
  simp [toList_substitute]

end Texts

def joined (value : String → String) : String → List (String × String) → String
  | text, [] => text
  | text, (name, next) :: rest => text ++ value name ++ joined value next rest

lemma joined_append (value : String → String) (text : String) (front : List (String × String))
    (name next : String)
    (rest : List (String × String)) :
    joined value text (front ++ (name, next) :: rest) =
      joined value text front ++ value name ++ joined value next rest := by
  induction front generalizing text with
  | nil => rfl
  | cons part front ih => simp [joined, ih, String.append_assoc]

structure Parted (s text : String) (rest : List (String × String)) : Prop where
  plain : ∀ part ∈ text :: rest.map (·.2), ∀ name : String, ¬Refers part.toList name.toList
  written : s = joined reference text rest
  substituted : ∀ env, substitute env s = joined (fun name => (env name).getD (reference name)) text rest

lemma Parted.between {a b name text next : String} {front rest : List (String × String)}
    (ha : Closed a.toList)
    (hne : name ≠ "") (hname : '\x7d' ∉ name.toList) (hfront : Parted a text front)
      (hrest : Parted b next rest) :
    Parted (a ++ reference name ++ b) text (front ++ (name, next) :: rest) := by
  constructor
  · intro part hpart
    rw [List.map_append, List.map_cons, ← List.cons_append] at hpart
    rcases List.mem_append.mp hpart with hpart | hpart
    · exact hfront.plain part hpart
    · exact hrest.plain part hpart
  · rw [joined_append, ← hfront.written, ← hrest.written]
  · intro env
    rw [joined_append, ← hfront.substituted, ← hrest.substituted, substitute_between ha hne hname]

lemma exists_parted (s : String) : ∃ text rest, Parted s text rest := by
  induction hlength : s.length using Nat.strong_induction_on generalizing s with
  | _ n ih =>
    by_cases hrefers : ∃ name : String, Refers s.toList name.toList
    · obtain ⟨name, before, after, hclosed, hne, hname, hs⟩ := hrefers
      have htext : s = String.ofList before ++ reference name ++ String.ofList after := by
        rw [← String.toList_inj, hs]
        simp [toList_reference]
      have hlengths := congrArg List.length hs
      simp only [List.length_append, List.length_cons, String.length_toList] at hlengths
      obtain ⟨text, front, hfront⟩ := ih before.length (by omega) (String.ofList before) String.length_ofList
      obtain ⟨next, rest, hrest⟩ := ih after.length (by omega) (String.ofList after) String.length_ofList
      rw [htext]
      refine ⟨text, front ++ (name, next) :: rest, .between ?_ ?_ hname hfront hrest⟩
      · rwa [String.toList_ofList]
      · exact mt String.toList_eq_nil_iff.mpr hne
    · refine ⟨s, [], by simpa using hrefers, rfl, fun env => substitute_of_unset fun name hname => ?_⟩
      exact (hrefers ⟨name, hname⟩).elim

/-- A text none of whose references is set stays as it is. Behind a text in which all references are closed, one
more is replaced on its own, by its value as it is, or by itself if it is not set. So every text has parts without
references that stay, and only what stands between them is replaced. -/
theorem substituted_in_place :
    (∀ env s, (∀ name : String, Refers s.toList name.toList → env name = none) → substitute env s = s) ∧
    (∀ env a name b, Closed a.toList → name ≠ "" → '\x7d' ∉ name.toList →
      substitute env (a ++ reference name ++ b) =
        substitute env a ++ (env name).getD (reference name) ++ substitute env b) ∧
    ∀ s, ∃ text rest, Parted s text rest := by
  refine ⟨fun env s hunset => substitute_of_unset hunset, fun env a name b ha hne hname => ?_, exists_parted⟩
  exact substitute_between ha hne hname

def layered : Environment := fun name =>
  if name = "A" then some "$\x7bB\x7d" else if name = "B" then some "deep" else none

theorem layered_substituted :
    (∀ name : String, Refers "$\x7b$\x7bA\x7d".toList name.toList → layered name = none) ∧
    substitute layered "$\x7b$\x7bA\x7d" = "$\x7b$\x7bA\x7d" ∧
    Closed "$$\x7bA\x7d $\x7b\x7d $\x7b$\x7bA\x7d".toList ∧
    substitute layered ("$$\x7bA\x7d $\x7b\x7d $\x7b$\x7bA\x7d" ++ reference "A" ++ "\x7d $\x7bB\x7d $\x7bB") =
      "$$\x7bB\x7d $\x7b\x7d $\x7b$\x7bA\x7d" ++ "$\x7bB\x7d" ++ "\x7d deep $\x7bB" := by
  have hunset : ∀ name : String, Refers "$\x7b$\x7bA\x7d".toList name.toList → layered name = none := by
    intro name hrefers
    have hpieces : environmentPieces none "$\x7b$\x7bA\x7d".toList = [.reference "$\x7bA".toList] :=
      by decide +kernel
    rw [refers_iff, hpieces, List.mem_singleton, EnvironmentPiece.reference.injEq,
      String.toList_inj] at hrefers
    rw [hrefers]
    decide
  have hclosed : Closed "$$\x7bA\x7d $\x7b\x7d $\x7b$\x7bA\x7d".toList :=
    closed_nil.behind "$$\x7bA\x7d $\x7b\x7d $\x7b$\x7bA".toList
  refine ⟨hunset, substituted_in_place.1 layered _ hunset, hclosed, ?_⟩
  rw [substituted_in_place.2.1 layered _ "A" _ hclosed (by decide) (by decide)]
  decide +kernel

end DiscordBot.Config
