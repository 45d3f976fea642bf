/-! The exact value of a binary floating-point number: a sign and a whole number times a power of two. -/

namespace DiscordBot.Decimal

structure Dyadic where
  negative : Bool
  mantissa : Nat
  exponent : Int
  deriving DecidableEq, Repr

inductive FloatShape where
  | finite (value : Dyadic)
  | infinite (negative : Bool)
  | nan

def FloatShape.ofBits (bits : Nat) : FloatShape :=
  let negative := bits >>> 63 % 2 == 1
  let e : Nat := bits >>> 52 % 0x800
  let f : Nat := bits % 0x10000000000000
  if e == 2047 then
    if f == 0 then .infinite negative else .nan
  else if e == 0 then .finite ⟨negative, f, -1074⟩
  else .finite ⟨negative, f + 0x10000000000000, (e : Int) - 1075⟩

def FloatShape.of (x : Float) : FloatShape := .ofBits x.toBits.toNat

structure Ratio where
  num : Nat
  den : Nat
  deriving DecidableEq, Repr

def Ratio.scaled (mantissa : Nat) (e2 e10 : Int) : Ratio :=
  ⟨mantissa <<< e2.toNat * Nat.pow 10 e10.toNat, 1 <<< (-e2).toNat * Nat.pow 10 (-e10).toNat⟩

def Ratio.roundEven (r : Ratio) : Nat :=
  let q := r.num / r.den
  let twice := 2 * (r.num % r.den)
  if twice < r.den then q
  else if r.den < twice then q + 1
  else if q % 2 == 0 then q else q + 1

end DiscordBot.Decimal
