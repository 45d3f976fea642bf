import DiscordBot.Text.WordChar

/-! Texts with placeholders: a word in curly brackets. -/

namespace DiscordBot.Reply

inductive Piece where
  | text (c : Char)
  | placeholder (name : String)
  deriving DecidableEq, Repr

def closing? (cs : List Char) : Option (List Char × List Char) :=
  match cs.dropWhile Text.isWordChar with
  | '\x7d' :: rest =>
    if (cs.takeWhile Text.isWordChar).isEmpty then none
    else some (cs.takeWhile Text.isWordChar, rest)
  | _ => none

theorem closing?_length {cs word rest : List Char} (h : closing? cs = some (word, rest)) :
    rest.length < cs.length := by
  unfold closing? at h
  have hl : (cs.dropWhile Text.isWordChar).length ≤ cs.length :=
    (List.dropWhile_suffix _).length_le
  split at h
  · rename_i r hr
    split at h
    · cases h
    · cases h
      rw [hr] at hl
      simp only [List.length_cons] at hl
      omega
  · cases h

def pieces : List Char → List Piece
  | [] => []
  | c :: cs =>
    if c = '\x7b' then
      match h : closing? cs with
      | some (word, rest) =>
        have := closing?_length h
        .placeholder (String.ofList word) :: pieces rest
      | none => .text c :: pieces cs
    else .text c :: pieces cs
termination_by cs => cs.length

end DiscordBot.Reply
