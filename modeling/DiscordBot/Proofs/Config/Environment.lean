import DiscordBot.Config.Environment
import Mathlib.Data.List.Basic
import Mathlib.Tactic.Common

/-! References to the environment are cut out of a text part by part. -/

namespace DiscordBot.Config

def Closed (cs : List Char) : Prop := ∀ before after, cs = before ++ '$' :: '\x7b' :: after → '\x7d' ∈ after

lemma Closed.tail {c : Char} {cs : List Char} (h : Closed (c :: cs)) : Closed cs :=
  fun before after heq => h (c :: before) after (by rw [heq]; rfl)

variable {cs r name : List Char}

lemma closed_of_plain (h : '$' ∉ cs) : Closed cs := by
  rintro before after rfl
  exact (h (by simp)).elim

def Ends (state : Option (List Char)) (cs : List Char) : Prop := state.isSome → '\x7d' ∈ cs

lemma environmentPieces_append_of_ends {state : Option (List Char)} (hclosed : Closed cs)
    (hends : Ends state cs)
    (hr : r.head? ≠ some '\x7b') :
    environmentPieces state (cs ++ r) = environmentPieces state cs ++ environmentPieces none r := by
  fun_induction environmentPieces state cs with
  | case1 => rfl
  | case2 name => cases hends rfl
  | case3 name cs ih =>
    rw [List.cons_append, environmentPieces, ih hclosed.tail nofun, List.cons_append]
  | case4 name c cs hc ih =>
    have hends' : Ends (some (name ++ [c])) cs := fun _ =>
      (List.mem_cons.mp (hends rfl)).resolve_left fun h => hc h.symm
    rw [List.cons_append, environmentPieces, ih hclosed.tail hends']
    exact hc
  | case5 c cs hc ih =>
    rw [List.cons_append, List.cons_append, List.cons_append, environmentPieces, if_pos hc,
      ih hclosed.tail.tail.tail nofun]
    rfl
  | case6 c cs hc ih =>
    have hends' : Ends (some [c]) cs := fun _ =>
      (List.mem_cons.mp (hclosed [] (c :: cs) rfl)).resolve_left fun h => hc (by rw [← h]; rfl)
    rw [List.cons_append, List.cons_append, List.cons_append, environmentPieces, if_neg hc,
      ih hclosed.tail.tail.tail hends']
  | case7 c cs hplain ih =>
    rw [List.cons_append, environmentPieces, ih hclosed.tail nofun, List.cons_append]
    -- A reference that begins here has its bracket in the text too, which is where the scanner would see it.
    rintro d rest rfl hrest
    cases cs with
    | nil => exact hr (by rw [show r = _ from hrest]; rfl)
    | cons e cs =>
      obtain ⟨rfl, hrest⟩ := List.cons.inj hrest
      cases cs with
      | nil => cases hclosed [] [] rfl
      | cons f cs => exact hplain f cs rfl rfl

theorem environmentPieces_append (hclosed : Closed cs) (hr : r.head? ≠ some '\x7b') :
    environmentPieces none (cs ++ r) = environmentPieces none cs ++ environmentPieces none r :=
  environmentPieces_append_of_ends hclosed nofun hr

lemma environmentPieces_plain (hplain : '$' ∉ cs) (r : List Char) :
    environmentPieces none (cs ++ r) = cs.map .text ++ environmentPieces none r := by
  induction cs with
  | nil => rfl
  | cons c cs ih =>
    obtain ⟨hc, hcs⟩ := not_or.mp (mt List.mem_cons.mpr hplain)
    rw [List.cons_append, environmentPieces, ih hcs]
    · rfl
    · rintro d rest rfl _
      exact hc rfl

lemma environmentPieces_name {first : List Char} (hname : '\x7d' ∉ name) (r : List Char) :
    environmentPieces (some first) (name ++ '\x7d' :: r) =
      .reference (first ++ name) :: environmentPieces none r := by
  induction name generalizing first with
  | nil => rw [List.nil_append, environmentPieces, List.append_nil]
  | cons c name ih =>
    obtain ⟨hc, hname⟩ := not_or.mp (mt List.mem_cons.mpr hname)
    rw [List.cons_append, environmentPieces, ih hname, List.append_assoc, List.singleton_append]
    exact fun h => hc h.symm

theorem environmentPieces_reference (hne : name ≠ []) (hname : '\x7d' ∉ name) (r : List Char) :
    environmentPieces none ('$' :: '\x7b' :: (name ++ '\x7d' :: r)) =
      .reference name :: environmentPieces none r := by
  cases name with
  | nil => exact (hne rfl).elim
  | cons c name =>
    obtain ⟨hc, hname⟩ := not_or.mp (mt List.mem_cons.mpr hname)
    have hopen : ¬(c == '\x7d') = true := fun h => hc (beq_iff_eq.mp h).symm
    rw [List.cons_append, environmentPieces, if_neg hopen, environmentPieces_name hname,
      List.singleton_append]

def replaced (env : Environment) (cs : List Char) : List Char :=
  (environmentPieces none cs).flatMap (·.replacement env)

variable {env : Environment}

lemma toList_substitute (env : Environment) (s : String) :
    (substitute env s).toList = replaced env s.toList :=
  String.toList_ofList

lemma replaced_append (hclosed : Closed cs) (hr : r.head? ≠ some '\x7b') :
    replaced env (cs ++ r) = replaced env cs ++ replaced env r := by
  rw [replaced, environmentPieces_append hclosed hr, List.flatMap_append]
  rfl

lemma replaced_plain (hplain : '$' ∉ cs) (r : List Char) : replaced env (cs ++ r) = cs ++ replaced env r := by
  rw [replaced, environmentPieces_plain hplain, List.flatMap_append, List.flatMap_map]
  have hself : cs.flatMap (fun c => (EnvironmentPiece.text c).replacement env) = cs :=
    List.flatMap_singleton' cs
  rw [hself]
  rfl

lemma replaced_of_plain (hplain : '$' ∉ cs) : replaced env cs = cs := by
  have hcs := @replaced_plain _ env hplain []
  rwa [List.append_nil, show replaced env [] = [] from rfl, List.append_nil] at hcs

end DiscordBot.Config
