import DiscordBot.Decimal.Integer
import DiscordBot.Json.Basic

/-! The value of a number in JSON text. Whole numbers that fit 64 bits are exact. Every other number is
a float made of at most 64 bits of leading digits and one power of ten. -/

namespace DiscordBot.Json

structure NumberText where
  negative : Bool
  whole : List Char
  fraction : List Char
  exponent : Option (Bool × List Char)

def greatestSignificand : Nat := 0xFFFFFFFFFFFFFFFF

def takeDigits : Nat → List Char → Nat × List Char
  | n, [] => (n, [])
  | n, c :: cs =>
    let next := n * 10 + Decimal.digitValue c
    if next ≤ greatestSignificand then takeDigits next cs else (n, c :: cs)

def powerOfTen (e : Nat) : Float := Float.ofScientific 1 false e

def scaleByTen : Nat → Float → Int → Option Float
  -- Far below zero it goes in steps of `10^308`, each rounded.
  | 0, _, _ => none
  | fuel + 1, x, exponent =>
    if exponent.natAbs ≤ 308 then
      if 0 ≤ exponent then
        let y := x * powerOfTen exponent.toNat
        if y.isInf then none else some y
      else some (x / powerOfTen exponent.natAbs)
    else if x == 0 then some x
    else if 0 ≤ exponent then none
    else scaleByTen fuel (x / powerOfTen 308) (exponent + 308)

def greatestExponent : Nat := 0x7FFFFFFF

def NumberText.float? (t : NumberText) : Option Float :=
  let (n, dropped) := takeDigits 0 t.whole
  let (n, unread) := takeDigits n t.fraction
  let shift : Int := (dropped.length : Int) - ((t.fraction.length : Int) - unread.length)
  let magnitude := match t.exponent with
    | none => scaleByTen 4 (Float.ofNat n) shift
    | some (negative, ds) =>
      let e := ds.foldl (fun e c => e * 10 + Decimal.digitValue c) 0
      if greatestExponent < e then
        if n != 0 && !negative then none else some 0
      else scaleByTen 4 (Float.ofNat n) (if negative then shift - e else shift + e)
  magnitude.map fun x => if t.negative then -x else x

def NumberText.value? (t : NumberText) : Option Json :=
  -- A negative zero is a float.
  let float := t.float?.bind fun x => if h : x.isFinite = true then some (.float ⟨x, h⟩) else none
  if t.fraction.isEmpty && t.exponent.isNone then
    let (n, dropped) := takeDigits 0 t.whole
    if !dropped.isEmpty then float
    else if !t.negative then some (.int n)
    else if n == 0 || 0x8000000000000000 < n then float
    else some (.int (-(n : Int)))
  else float

end DiscordBot.Json
