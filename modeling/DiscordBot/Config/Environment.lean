/-! References to environment variables in a text, written `${NAME}`. -/

namespace DiscordBot.Config

abbrev Environment := String → Option String

inductive EnvironmentPiece where
  | text (c : Char)
  | reference (name : List Char)
  deriving DecidableEq, Repr

/-- Cuts a text from left to right. A reference is begun by its first character and waits for its closing
bracket; one that never comes leaves text. -/
def environmentPieces : Option (List Char) → List Char → List EnvironmentPiece
  | none, [] => []
  | some name, [] => ('$' :: '\x7b' :: name).map .text
  | some name, '\x7d' :: cs => .reference name :: environmentPieces none cs
  | some name, c :: cs => environmentPieces (some (name ++ [c])) cs
  | none, '$' :: '\x7b' :: c :: cs =>
    if c == '\x7d' then .text '$' :: .text '\x7b' :: .text '\x7d' :: environmentPieces none cs
    else environmentPieces (some [c]) cs
  | none, c :: cs => .text c :: environmentPieces none cs

def EnvironmentPiece.replacement (env : Environment) : EnvironmentPiece → List Char
  | text c => [c]
  | reference name =>
    match env (String.ofList name) with
    | some value => value.toList
    | none => '$' :: '\x7b' :: name ++ ['\x7d']

def substitute (env : Environment) (s : String) : String :=
  String.ofList ((environmentPieces none s.toList).flatMap (·.replacement env))

end DiscordBot.Config
