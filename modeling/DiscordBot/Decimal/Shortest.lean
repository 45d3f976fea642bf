import DiscordBot.Decimal.Dyadic

/-! The fewest decimal digits that read back as a given float, and the nearest such decimal. -/

namespace DiscordBot.Decimal

structure Digits where
  digits : Nat
  exponent : Int
  deriving DecidableEq, Repr

def leadingExponent (m : Nat) (e : Int) : Int :=
  let guess := (((Nat.log2 m : Int) + e) * 30103).fdiv 100000
  let r := Ratio.scaled m e (-guess)
  if r.num < r.den then guess - 1
  else if 10 * r.den ≤ r.num then guess + 1
  else guess

/-- Whether `c * 10^k` reads back as `m * 2^e`. The interval of reals that round to it reaches half a
unit up, half a unit down (a quarter at a power of two), and includes its ends when `m` is even. -/
def readsBack (m : Nat) (e k : Int) (c : Nat) : Bool :=
  let r := Ratio.scaled 1 (e - 2) (-k)
  let below := if m == 0x10000000000000 && e != -1074 then 1 else 2
  let lo := (4 * m - below) * r.num
  let hi := (4 * m + 2) * r.num
  let x := c * r.den
  if m % 2 == 0 then decide (lo ≤ x) && decide (x ≤ hi) else decide (lo < x) && decide (x < hi)

def nearestOnGrid (m : Nat) (e k : Int) : Option Nat :=
  let r := Ratio.scaled m e (-k)
  let c := r.num / r.den
  match readsBack m e k c, readsBack m e k (c + 1) with
  | true, true => some r.roundEven
  | true, false => some c
  | false, true => some (c + 1)
  | false, false => none

def searchGrid (m : Nat) (e : Int) : Nat → Int → Digits
  -- Each further grid has one digit more.
  | 0, k => ⟨(nearestOnGrid m e k).getD 0, k⟩
  | fuel + 1, k =>
    match nearestOnGrid m e k with
    | some c => ⟨c, k⟩
    | none => searchGrid m e fuel (k - 1)

def dropZeros : Nat → Nat → Int → Digits
  | 0, c, k => ⟨c, k⟩
  | fuel + 1, c, k => if c % 10 == 0 && c != 0 then dropZeros fuel (c / 10) (k + 1) else ⟨c, k⟩

def shortest (m : Nat) (e : Int) : Digits :=
  -- Seventeen digits are enough for every float.
  if m == 0 then ⟨0, 0⟩
  else
    let found := searchGrid m e 16 (leadingExponent m e)
    dropZeros 17 found.digits found.exponent

end DiscordBot.Decimal
