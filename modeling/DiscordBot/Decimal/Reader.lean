import DiscordBot.Decimal.Integer

/-! Floats read from decimal text, rounded to the nearest. -/

namespace DiscordBot.Decimal

def nearestFloat (digits : Nat) (exponent : Int) : Float :=
  -- Exponents beyond the range of floats are cut short, so that no huge power is computed.
  let size : Int := (Nat.log2 digits : Int) * 30103 / 100000
  if digits == 0 then 0
  else if exponent + size < -400 then 0
  else if 400 < exponent + size then 1.0 / 0.0
  else Float.ofScientific digits (decide (exponent < 0)) exponent.natAbs

def digitsValue (cs : List Char) : Nat := cs.foldl (fun n c => n * 10 + digitValue c) 0

def readExponent? : List Char → Option Int
  | [] => some 0
  | c :: cs =>
    if c == 'e' || c == 'E' then
      let (negative, ds) := match cs with
        | '-' :: ds => (true, ds)
        | '+' :: ds => (false, ds)
        | ds => (false, ds)
      if ds.isEmpty || !ds.all isDigit then none
      else some (if negative then -(digitsValue ds : Int) else digitsValue ds)
    else none

def readMagnitude? (cs : List Char) : Option Float := do
  let whole := cs.takeWhile isDigit
  let rest := cs.dropWhile isDigit
  let (fraction, rest) := match rest with
    | '.' :: r => (r.takeWhile isDigit, r.dropWhile isDigit)
    | r => ([], r)
  if whole.isEmpty && fraction.isEmpty then none
  else
    let e ← readExponent? rest
    some (nearestFloat (digitsValue (whole ++ fraction)) (e - fraction.length))

def lowerAscii (c : Char) : Char :=
  if 'A' ≤ c ∧ c ≤ 'Z' then Char.ofNat (c.toNat + 32) else c

def readFloat? (s : String) : Option Float :=
  let (negative, cs) := match s.toList with
    | '-' :: cs => (true, cs)
    | '+' :: cs => (false, cs)
    | cs => (false, cs)
  let magnitude := match String.ofList (cs.map lowerAscii) with
    | "inf" | "infinity" => some (1.0 / 0.0)
    | "nan" => some (0.0 / 0.0)
    | _ => readMagnitude? cs
  magnitude.map fun x => if negative then -x else x

end DiscordBot.Decimal
