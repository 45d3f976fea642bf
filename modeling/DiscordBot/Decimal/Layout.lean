import DiscordBot.Decimal.Shortest

/-! How the digits of a float are laid out as text. -/

namespace DiscordBot.Decimal

def zeros (n : Nat) : String := String.ofList (List.replicate n '0')

def positional (d : Digits) : String :=
  let ds := toString d.digits
  if 0 ≤ d.exponent then
    if d.digits == 0 then "0" else ds ++ zeros d.exponent.toNat
  else
    let places := (-d.exponent).toNat
    let cs := ds.toList
    if places < cs.length then
      String.ofList (cs.take (cs.length - places)) ++ "." ++ String.ofList (cs.drop (cs.length - places))
    else "0." ++ zeros (places - cs.length) ++ ds

def scientific (d : Digits) : String :=
  let cs := (toString d.digits).toList
  let e := d.exponent + cs.length - 1
  let fraction := match cs.drop 1 with
    | [] => ""
    | rest => "." ++ String.ofList rest
  String.ofList (cs.take 1) ++ fraction ++ "e" ++ (if e < 0 then "-" else "+") ++ toString e.natAbs

def signed (negative : Bool) (s : String) : String := if negative then "-" ++ s else s

def plainText (x : Float) : String :=
  match FloatShape.of x with
  | .finite v => signed v.negative (positional (shortest v.mantissa v.exponent))
  | .infinite negative => signed negative "inf"
  | .nan => "NaN"

def pointedText (x : Float) : String :=
  -- Numbers from `1e16` on and below `1e-5` have an exponent.
  match FloatShape.of x with
  | .finite v =>
    let d := shortest v.mantissa v.exponent
    let lead := d.exponent + (toString d.digits).length - 1
    signed v.negative <|
      if d.digits == 0 then "0.0"
      else if lead < -5 || 16 ≤ lead then scientific d
      else if 0 ≤ d.exponent then positional d ++ ".0"
      else positional d
  | _ => "null"

def tenthsText (x : Float) : String :=
  match FloatShape.of x with
  | .finite v =>
    let tenths := (Ratio.scaled v.mantissa v.exponent 1).roundEven
    signed v.negative (toString (tenths / 10) ++ "." ++ toString (tenths % 10))
  | .infinite negative => signed negative "inf"
  | .nan => "NaN"

end DiscordBot.Decimal
