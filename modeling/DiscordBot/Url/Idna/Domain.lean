import DiscordBot.Url.Idna.Context
import DiscordBot.Url.Idna.Punycode

/-! Domain names in their ASCII form. -/

namespace DiscordBot.Url.Idna

open Punycode (isAscii)

def shifts : List (Nat × Nat × Nat × Nat) :=
  (rows shiftTable).filterMap fun
    | [first, last, step, target] => some (first, last, step, target)
    | _ => none

def expansions : List (Nat × List Char) :=
  (rows expansionTable).filterMap fun
    | n :: cs => some (n, cs.map Char.ofNat)
    | [] => none

def refused : List (Nat × Nat) := runs refusedTable

def ignored : List (Nat × Nat) := runs ignoredTable

def lowerAscii (c : Char) : Char :=
  if 'A' ≤ c ∧ c ≤ 'Z' then Char.ofNat (c.toNat + 32) else c

def mapped? (c : Char) : Option (List Char) :=
  let n := c.toNat
  if isAscii c then some [lowerAscii c]
  else if within refused n then none
  else if within ignored n then some []
  else
    match shifts.find? fun s => s.1 ≤ n && n ≤ s.2.1 && (n - s.1) % s.2.2.1 == 0 with
    | some (first, _, _, target) => some [Char.ofNat (target + (n - first))]
    | none => some ((expansions.lookup n).getD [c])

def isStable (c : Char) : Bool := mapped? c == some [c]

def splitLabels (cs : List Char) : List (List Char) := cs.splitOn '.'

/-- The label as it is meant. One behind `xn--` has a character beyond ASCII, and only stable ones. -/
def label? (cs : List Char) : Option (List Char) :=
  match cs with
  | 'x' :: 'n' :: '-' :: '-' :: r => do
    let label ← Punycode.decode? r
    if label.all isStable && !label.all isAscii then some label else none
  | cs => some cs

def isForbidden (c : Char) : Bool :=
  c.toNat ≤ 0x20 || c.toNat == 0x7f ||
    ['%', '#', '/', ':', '<', '>', '?', '@', '[', '\\', ']', '^', '|'].contains c

def isValidLabel (turning : Bool) (cs : List Char) : Bool :=
  cs.all (fun c => !isForbidden c) && !(cs.head?.any isMark) && joinersFit [] cs
    && (!turning || cs.isEmpty || keepsDirection cs)

def labelText (cs : List Char) : List Char :=
  if cs.all isAscii then cs else 'x' :: 'n' :: '-' :: '-' :: Punycode.encode cs

def ascii? (cs : List Char) : Option (List Char) := do
  let mapped := (← cs.mapM mapped?).flatten
  let labels ← (splitLabels mapped).mapM label?
  let turning := labels.any turns
  if labels.all (isValidLabel turning) then some (['.'].intercalate (labels.map labelText)) else none

end DiscordBot.Url.Idna
