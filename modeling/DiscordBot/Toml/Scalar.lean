import DiscordBot.Decimal.Reader
import DiscordBot.Time.Calendar
import DiscordBot.Toml.Quoted
import DiscordBot.Toml.Value

/-! Values without quotes or brackets: booleans, numbers and points in time. -/

namespace DiscordBot.Toml

open Decimal (isDigit digitValue digitsValue)
open Json (hexValue?)

def groupedDigits? (valid : Char → Bool) : List Char → Option (List Char)
  | [] => none
  | [c] => if valid c then some [c] else none
  | c :: '_' :: r => if valid c then (groupedDigits? valid r).map (c :: ·) else none
  | c :: r => if valid c then (groupedDigits? valid r).map (c :: ·) else none

def wholeDigits? (cs : List Char) : Option (List Char) := do
  let ds ← groupedDigits? isDigit cs
  if ds.head? == some '0' && 1 < ds.length then none else some ds

def boundedInteger? (n : Int) : Option Value :=
  if -0x80000000000000000000000000000000 ≤ n ∧ n ≤ 0xFFFFFFFFFFFFFFFFFFFFFFFFFFFFFFFF then
    some (.integer n)
  else none

def radixInteger? (radix : Nat) (cs : List Char) : Option Value := do
  let valid c := match hexValue? c with
    | some d => d < radix
    | none => false
  let ds ← groupedDigits? valid cs
  boundedInteger? (ds.foldl (fun n c => n * radix + (hexValue? c).getD 0) 0 : Nat)

def signed (cs : List Char) : Bool × List Char :=
  match cs with
  | '-' :: r => (true, r)
  | '+' :: r => (false, r)
  | r => (false, r)

def integer? (cs : List Char) : Option Value := do
  let (negative, r) := signed cs
  let n := digitsValue (← wholeDigits? r)
  boundedInteger? (if negative then -(n : Int) else n)

def isExponentMark (c : Char) : Bool := c == 'e' || c == 'E'

def float? (cs : List Char) : Option Value := do
  let (negative, r) := signed cs
  let mantissa := r.takeWhile fun c => !isExponentMark c
  let mark := r.dropWhile fun c => !isExponentMark c
  let whole ← wholeDigits? (mantissa.takeWhile (· != '.'))
  let fraction ← match mantissa.dropWhile (· != '.') with
    | _ :: r => groupedDigits? isDigit r
    | [] => if mark.isEmpty then none else some []
  let exponent : Int ← match mark with
    | _ :: r => do
      let (below, r) := signed r
      let e := digitsValue (← groupedDigits? isDigit r)
      some (if below then -(e : Int) else e)
    | [] => some 0
  let x := Decimal.nearestFloat (digitsValue (whole ++ fraction)) (exponent - fraction.length)
  if x.isInf then none else some (.float (if negative then -x else x))

def twoDigits? (a b : Char) : Option Nat :=
  if isDigit a && isDigit b then some (digitValue a * 10 + digitValue b) else none

def afterDate? : List Char → Option (List Char)
  | y :: z :: w :: v :: '-' :: m :: n :: '-' :: d :: e :: r => do
    let year := (← twoDigits? y z) * 100 + (← twoDigits? w v)
    let date : Time.Date := ⟨year, ← twoDigits? m n, ← twoDigits? d e⟩
    if date.isValid then some r else none
  | _ => none

def afterTime? : List Char → Option (List Char)
  | h :: i :: ':' :: m :: n :: r => do
    if 23 < (← twoDigits? h i) || 59 < (← twoDigits? m n) then none
    match r with
    | ':' :: s :: t :: r =>
      if 60 < (← twoDigits? s t) then none
      match r with
      | '.' :: r => if (r.takeWhile isDigit).isEmpty then none else some (r.dropWhile isDigit)
      | r => some r
    | r => some r
  | _ => none

def isOffset : List Char → Bool
  | [] | ['Z'] | ['z'] => true
  | sign :: h :: i :: ':' :: m :: [n] =>
    (sign == '+' || sign == '-') &&
      match twoDigits? h i, twoDigits? m n with
      | some hours, some minutes => minutes ≤ 59 && hours * 60 + minutes ≤ 24 * 60
      | _, _ => false
  | _ => false

def isDate (cs : List Char) : Bool := afterDate? cs == some []

def isDateTime (cs : List Char) : Bool :=
  match afterDate? cs with
  | none => afterTime? cs == some []
  | some [] => true
  | some (mark :: r) => (mark == 'T' || mark == 't' || mark == ' ') && (afterTime? r).any isOffset

def scalar? (cs : List Char) : Option Value :=
  match cs with
  | '0' :: 'x' :: r => radixInteger? 16 r
  | '0' :: 'o' :: r => radixInteger? 8 r
  | '0' :: 'b' :: r => radixInteger? 2 r
  | cs =>
    match String.ofList cs with
    | "true" => some (.boolean true)
    | "false" => some (.boolean false)
    | "inf" | "+inf" => some (.float (1.0 / 0.0))
    | "-inf" => some (.float (-(1.0 / 0.0)))
    | "nan" | "+nan" | "-nan" => some (.float (0.0 / 0.0))
    | text =>
      if isDateTime cs then some (.dateTime text)
      else (integer? cs).or (float? cs)

def isPlain (c : Char) : Bool :=
  !(isBlank c || c == '\r' || c == '\n' || c == ',' || c == '#' || c == ']' || c == '\x7d')

def scanPlain (cs : List Char) : Option (Value × List Char) :=
  -- A time may follow a date behind one space.
  let word := cs.takeWhile isPlain
  let rest := cs.dropWhile isPlain
  match rest with
  | ' ' :: c :: r =>
    if isDate word && isDigit c then
      let time := (c :: r).takeWhile isPlain
      (scalar? (word ++ ' ' :: time)).map fun v => (v, (c :: r).dropWhile isPlain)
    else (scalar? word).map fun v => (v, rest)
  | rest => (scalar? word).map fun v => (v, rest)

end DiscordBot.Toml
