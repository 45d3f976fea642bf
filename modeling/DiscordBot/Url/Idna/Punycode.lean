/-! Labels of a domain name in Punycode: the ASCII characters, then where the others are put in. -/

namespace DiscordBot.Url.Idna.Punycode

def digitChar (d : Nat) : Char :=
  if d < 26 then Char.ofNat ('a'.toNat + d) else Char.ofNat ('0'.toNat + (d - 26))

def digitValue? (c : Char) : Option Nat :=
  if 'a' ≤ c ∧ c ≤ 'z' then some (c.toNat - 'a'.toNat)
  else if 'A' ≤ c ∧ c ≤ 'Z' then some (c.toNat - 'A'.toNat)
  else if '0' ≤ c ∧ c ≤ '9' then some (c.toNat - '0'.toNat + 26)
  else none

def threshold (position bias : Nat) : Nat :=
  if position ≤ bias then 1 else if bias + 26 ≤ position then 26 else position - bias

def shrink (delta steps : Nat) : Nat :=
  if 455 < delta then shrink (delta / 35) (steps + 36) else steps + 36 * delta / (delta + 38)
termination_by delta
decreasing_by exact Nat.div_lt_self (by omega) (by omega)

def adapt (delta count : Nat) (first : Bool) : Nat :=
  let delta := if first then delta / 700 else delta / 2
  shrink (delta + delta / count) 0

def writeNumber (bias : Nat) : Nat → Nat → Nat → List Char
  -- The fuel is the number itself, which bounds how many digits there are.
  | 0, _, n => [digitChar n]
  | fuel + 1, position, n =>
    let t := threshold position bias
    if n < t then [digitChar n]
    else digitChar (t + (n - t) % (36 - t)) :: writeNumber bias fuel (position + 36) ((n - t) / (36 - t))

structure Writing where
  text : List Char
  delta : Nat
  bias : Nat
  written : Nat

def Writing.pass (label : List Char) (plain point : Nat) (w : Writing) : Writing :=
  label.foldl (fun w c =>
    if c.toNat < point then { w with delta := w.delta + 1 }
    else if c.toNat == point then
      ⟨w.text ++ writeNumber w.bias w.delta 36 w.delta, 0,
        adapt w.delta (w.written + 1) (w.written == plain), w.written + 1⟩
    else w) w

def isAscii (c : Char) : Bool := c.toNat < 0x80

def encode (label : List Char) : List Char :=
  let plain := label.filter isAscii
  let points := ((label.filter fun c => !isAscii c).map Char.toNat).mergeSort.eraseReps
  let start : Writing := ⟨if plain.isEmpty then [] else plain ++ ['-'], 0, 72, plain.length⟩
  (points.foldl (fun (w, next) point =>
    let w := { w with delta := w.delta + (point - next) * (w.written + 1) }
    let w := w.pass label plain.length point
    ({ w with delta := w.delta + 1 }, point + 1)) (start, 0x80)).1.text

def readInsertions : List Char → (bias position weight value start point : Nat) → List Char →
    Option (List Char)
  | out, _, position, _, _, _, _, [] => if position == 36 then some out else none
  | out, bias, position, weight, value, start, point, c :: cs => do
    let d ← digitValue? c
    let t := threshold position bias
    let value := value + d * weight
    if d < t then
      let count := out.length + 1
      let point := point + value / count
      let place := value % count
      if point < 0xD800 ∨ (0xDFFF < point ∧ point < 0x110000) then
        readInsertions (out.insertIdx place (Char.ofNat point))
          (adapt (value - start) count (start == 0)) 36 1 (place + 1) (place + 1) point cs
      else none
    else readInsertions out bias (position + 36) (weight * (36 - t)) value start point cs

def decode? (cs : List Char) : Option (List Char) :=
  let digits := (cs.reverse.takeWhile (· != '-')).reverse
  let plain := (cs.take (cs.length - digits.length)).dropLast
  if plain.all isAscii then readInsertions plain 72 36 1 0 0 0x80 digits else none

end DiscordBot.Url.Idna.Punycode
