import DiscordBot.Reply.Static
import Mathlib.Data.List.TakeWhile
import Mathlib.Tactic.Common

/-! Filled templates. From left to right each word in curly brackets gives way to what stands for it, and
every other character stays. -/

namespace DiscordBot.Reply

def IsWord (cs : List Char) : Prop := cs ≠ [] ∧ ∀ c ∈ cs, Text.isWordChar c = true

/-- The words of a text in curly brackets are filled in once. What is filled in is not looked at. -/
inductive Filled (fill : String → String) : List Char → List Char → Prop
  | nil : Filled fill [] []
  | placeholder {word rest out : List Char} : IsWord word → Filled fill rest out →
      Filled fill ('\x7b' :: (word ++ '\x7d' :: rest)) ((fill (String.ofList word)).toList ++ out)
  | text {c : Char} {cs out : List Char} :
      (∀ word rest, IsWord word → c :: cs ≠ '\x7b' :: (word ++ '\x7d' :: rest)) → Filled fill cs out →
      Filled fill (c :: cs) (c :: out)

lemma closing?_eq_some {cs word rest : List Char} :
    closing? cs = some (word, rest) ↔ IsWord word ∧ cs = word ++ '\x7d' :: rest := by
  constructor
  · intro h
    unfold closing? at h
    split at h
    · rename_i after hafter
      split at h
      · cases h
      · rename_i hword
        obtain ⟨rfl, rfl⟩ := Prod.mk.inj (Option.some.inj h)
        refine ⟨⟨by simpa using hword, fun c hc => List.mem_takeWhile_imp hc⟩, ?_⟩
        rw [← hafter, List.takeWhile_append_dropWhile]
    · cases h
  · rintro ⟨⟨hne, hword⟩, rfl⟩
    have hclosing : Text.isWordChar '\x7d' = false := by decide
    have htake : (word ++ '\x7d' :: rest).takeWhile Text.isWordChar = word := by
      rw [List.takeWhile_append_of_pos hword, List.takeWhile_cons, hclosing]
      simp
    have hdrop : (word ++ '\x7d' :: rest).dropWhile Text.isWordChar = '\x7d' :: rest := by
      rw [List.dropWhile_append_of_pos hword, List.dropWhile_cons, hclosing]
      simp
    simp [closing?, htake, hdrop, hne]

def Piece.filled (fill : String → String) : Piece → List Char
  | .text c => [c]
  | .placeholder name => (fill name).toList

section Pieces

variable {fill : String → String} {cs out : List Char}

lemma pieces_placeholder {word rest : List Char} (h : IsWord word) :
    pieces ('\x7b' :: (word ++ '\x7d' :: rest)) = .placeholder (String.ofList word) :: pieces rest := by
  have hclosing : closing? (word ++ '\x7d' :: rest) = some (word, rest) := closing?_eq_some.mpr ⟨h, rfl⟩
  rw [pieces, if_pos rfl]
  split
  · rename_i word' rest' hfound
    obtain ⟨rfl, rfl⟩ := Prod.mk.inj (Option.some.inj (hclosing.symm.trans hfound))
    rfl
  · rename_i hnone
    cases hclosing.symm.trans hnone

lemma pieces_text {c : Char} (h : ∀ word rest, IsWord word → c :: cs ≠ '\x7b' :: (word ++ '\x7d' :: rest)) :
    pieces (c :: cs) = .text c :: pieces cs := by
  rw [pieces]
  split
  · rename_i hc
    split
    · rename_i word rest hfound
      obtain ⟨hword, rfl⟩ := closing?_eq_some.mp hfound
      exact absurd (by rw [hc]) (h word rest hword)
    · rfl
  · rfl

lemma filled_iff : Filled fill cs out ↔ out = (pieces cs).flatMap (Piece.filled fill) := by
  constructor
  · intro h
    induction h with
    | nil => simp [pieces]
    | placeholder hword _ ih => simp [pieces_placeholder hword, Piece.filled, ih]
    | text hplain _ ih => simp [pieces_text hplain, Piece.filled, ih]
  · rintro rfl
    fun_induction pieces cs with
    | case1 => exact .nil
    | case2 cs word rest hfound hlength ih =>
      obtain ⟨hword, rfl⟩ := closing?_eq_some.mp hfound
      exact .placeholder hword ih
    | case3 cs hnone ih =>
      refine .text (fun word rest hword heq => ?_) ih
      have hfound : closing? cs = some (word, rest) := closing?_eq_some.mpr ⟨hword, (List.cons.inj heq).2⟩
      cases hnone.symm.trans hfound
    | case4 c cs hc ih => exact .text (fun word rest _ heq => hc (List.cons.inj heq).1) ih

end Pieces

namespace Static

variable (s : Static) (ctx : MessageContext) (args : Arguments)

lemma toList_pieceText (p : Piece) :
    (s.pieceText ctx args p).toList = p.filled (s.placeholderText ctx args) := by
  cases p with
  | text c => exact String.toList_singleton c
  | placeholder name => rfl

theorem filled_render {text : String} :
    Filled (s.placeholderText ctx args) s.template.toList text.toList ↔ text = s.render ctx args := by
  rw [filled_iff, ← String.toList_inj, render, String.toList_join, List.flatMap_map]
  simp only [toList_pieceText]

end Static

end DiscordBot.Reply
