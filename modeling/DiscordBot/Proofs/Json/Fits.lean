import DiscordBot.Json.Tree
import Mathlib.Tactic.Lemma
import Mathlib.Tactic.SplitIfs

/-! Values with whole numbers of 64 bits only, which is what reading a text gives. -/

namespace DiscordBot.Json

/-- A value whose whole numbers fit 64 bits, with or without a sign. -/
inductive Fits : Json → Prop
  | null : Fits .null
  | bool (b : Bool) : Fits (.bool b)
  | int {n : Int} (h : -0x8000000000000000 ≤ n ∧ n ≤ 0xFFFFFFFFFFFFFFFF) : Fits (.int n)
  | float (x : FiniteFloat) : Fits (.float x)
  | str (s : String) : Fits (.str s)
  | arr {items : List Json} (h : ∀ x ∈ items, Fits x) : Fits (.arr items)
  | obj {members : List (String × Json)} (h : ∀ m ∈ members, Fits m.2) : Fits (.obj members)

@[simp] lemma fits_null : Fits null := .null

@[simp] lemma fits_str (s : String) : (str s).Fits := .str s

@[simp] lemma fits_int {n : Int} :
    (int n).Fits ↔ -0x8000000000000000 ≤ n ∧ n ≤ 0xFFFFFFFFFFFFFFFF :=
  ⟨fun h => by cases h with | int h => exact h, .int⟩

@[simp] lemma fits_arr {items : List Json} : (arr items).Fits ↔ ∀ x ∈ items, x.Fits :=
  ⟨fun h => by cases h with | arr h => exact h, .arr⟩

@[simp] lemma fits_obj {members : List (String × Json)} :
    (obj members).Fits ↔ ∀ m ∈ members, m.2.Fits :=
  ⟨fun h => by cases h with | obj h => exact h, .obj⟩

lemma takeDigits_le {n : Nat} (h : n ≤ greatestSignificand) (cs : List Char) :
    (takeDigits n cs).1 ≤ greatestSignificand := by
  induction cs generalizing n with
  | nil => exact h
  | cons c cs ih =>
    rw [takeDigits]
    split
    · rename_i hnext
      exact ih hnext
    · exact h

lemma NumberText.fits_of_value {t : NumberText} {j : Json} (h : t.value? = some j) : j.Fits := by
  have hfloat : ∀ {x : Option Float}, (x.bind fun x =>
      if h : x.isFinite = true then some (.float ⟨x, h⟩) else none) = some j → j.Fits := by
    intro x hx
    obtain ⟨y, -, hy⟩ := Option.bind_eq_some_iff.mp hx
    split at hy
    · cases hy
      exact .float _
    · cases hy
  have hle : (takeDigits 0 t.whole).1 ≤ 0xFFFFFFFFFFFFFFFF := takeDigits_le (Nat.zero_le _) _
  unfold value? at h
  dsimp only at h
  split_ifs at h with _ _ _ hsmall
  · exact hfloat h
  · cases h
    exact .int (by omega)
  · exact hfloat h
  · cases h
    simp only [Bool.or_eq_true, decide_eq_true_eq, not_or] at hsmall
    exact .int (by omega)
  · exact hfloat h

lemma fits_insertMember {key : String} {value : Json} (hvalue : value.Fits)
    {ms : List (String × Json)} (hms : ∀ m ∈ ms, m.2.Fits) :
    ∀ m ∈ insertMember key value ms, m.2.Fits := by
  induction ms with
  | nil => simpa [insertMember] using hvalue
  | cons m ms ih =>
    obtain ⟨hm, hrest⟩ := List.forall_mem_cons.mp hms
    rw [insertMember]
    split
    · exact List.forall_mem_cons.mpr ⟨hvalue, hrest⟩
    · exact List.forall_mem_cons.mpr ⟨hm, ih hrest⟩

lemma fits_foldl_insertMember {ms acc : List (String × Json)} (hms : ∀ m ∈ ms, m.2.Fits)
    (hacc : ∀ m ∈ acc, m.2.Fits) :
    ∀ m ∈ ms.foldl (fun acc m => insertMember m.1 m.2 acc) acc, m.2.Fits := by
  induction ms generalizing acc with
  | nil => exact hacc
  | cons m ms ih =>
    obtain ⟨hm, hrest⟩ := List.forall_mem_cons.mp hms
    exact ih hrest (fits_insertMember hm hacc)

mutual

lemma Tree.fits_of_value {depth : Nat} {t : Tree} {j : Json} (h : t.value? depth = some j) :
    j.Fits := by
  cases t with
  | null =>
    cases h
    exact .null
  | bool b =>
    cases h
    exact .bool b
  | number t => exact NumberText.fits_of_value h
  | string us =>
    obtain ⟨s, -, rfl⟩ := Option.map_eq_some_iff.mp h
    exact .str s
  | array items =>
    cases depth with
    | zero => cases h
    | succ d =>
      obtain ⟨js, hjs, rfl⟩ := Option.map_eq_some_iff.mp h
      exact .arr (fits_of_itemValues hjs)
  | object ms =>
    cases depth with
    | zero => cases h
    | succ d =>
      obtain ⟨js, hjs, rfl⟩ := Option.map_eq_some_iff.mp h
      exact .obj (fits_foldl_insertMember (fits_of_memberValues hjs) (List.forall_mem_nil _))

lemma fits_of_itemValues {depth : Nat} {items : List Tree} {js : List Json}
    (h : itemValues? depth items = some js) : ∀ j ∈ js, j.Fits := by
  cases items with
  | nil =>
    cases h
    exact List.forall_mem_nil _
  | cons t ts =>
    obtain ⟨j, hj, h⟩ := Option.bind_eq_some_iff.mp h
    obtain ⟨js, hjs, h⟩ := Option.bind_eq_some_iff.mp h
    cases h
    exact List.forall_mem_cons.mpr ⟨Tree.fits_of_value hj, fits_of_itemValues hjs⟩

lemma fits_of_memberValues {depth : Nat} {members : List (List StringUnit × Tree)}
    {ms : List (String × Json)} (h : memberValues? depth members = some ms) :
    ∀ m ∈ ms, m.2.Fits := by
  cases members with
  | nil =>
    cases h
    exact List.forall_mem_nil _
  | cons m members =>
    obtain ⟨k, -, h⟩ := Option.bind_eq_some_iff.mp h
    obtain ⟨j, hj, h⟩ := Option.bind_eq_some_iff.mp h
    obtain ⟨rest, hrest, h⟩ := Option.bind_eq_some_iff.mp h
    cases h
    exact List.forall_mem_cons.mpr ⟨Tree.fits_of_value hj, fits_of_memberValues hrest⟩

end

theorem fits_of_parse {s : String} {j : Json} (h : parse? s = some j) : j.Fits := by
  obtain ⟨t, -, ht⟩ := Option.bind_eq_some_iff.mp h
  exact Tree.fits_of_value ht

end DiscordBot.Json
