import DiscordBot.Decimal.Layout
import DiscordBot.Json.Basic
import DiscordBot.Text.Basic

/-! Compact JSON text with the members of objects in the order of their keys. -/

namespace DiscordBot.Json

def hexDigit (n : Nat) : Char :=
  if n < 10 then Char.ofNat ('0'.toNat + n) else Char.ofNat ('a'.toNat + (n - 10))

def escapeChar (c : Char) : List Char :=
  match c with
  | '"' => ['\\', '"']
  | '\\' => ['\\', '\\']
  | '\n' => ['\\', 'n']
  | '\r' => ['\\', 'r']
  | '\t' => ['\\', 't']
  | '\x08' => ['\\', 'b']
  | '\x0c' => ['\\', 'f']
  | c =>
    if c.toNat < 0x20 then
      ['\\', 'u', '0', '0', hexDigit (c.toNat / 16), hexDigit (c.toNat % 16)]
    else [c]

def quote (s : String) : String := "\"" ++ String.ofList (s.toList.flatMap escapeChar) ++ "\""

def sortByKey {α : Type} (ms : List (String × α)) : List (String × α) :=
  ms.mergeSort fun a b => decide (a.1 ≤ b.1)

mutual

def render : Json → String
  | .null => "null"
  | .bool b => if b then "true" else "false"
  | .int n => toString n
  | .float x => Decimal.pointedText x.val
  | .str s => quote s
  | .arr items => "[" ++ Text.joinWith "," (renderItems items) ++ "]"
  | .obj ms =>
    "\x7b" ++ Text.joinWith "," ((sortByKey (renderMembers ms)).map fun m => quote m.1 ++ ":" ++ m.2)
      ++ "\x7d"

def renderItems : List Json → List String
  | [] => []
  | j :: js => render j :: renderItems js

def renderMembers : List (String × Json) → List (String × String)
  | [] => []
  | (k, j) :: ms => (k, render j) :: renderMembers ms

end

def toStringPairs : Json → List (String × String)
  -- A string stands for itself, every other value for its JSON text.
  | .obj ms =>
    (sortByKey (ms.filter fun m => !m.2.isNull)).map fun m =>
      (m.1, match m.2 with
        | .str s => s
        | j => j.render)
  | _ => []

end DiscordBot.Json
