/-! Whole numbers written in decimal digits, read up to a bound. -/

namespace DiscordBot.Decimal

inductive IntegerError where
  | empty
  | invalidDigit
  | tooLarge
  deriving DecidableEq, Repr

def IntegerError.message : IntegerError → String
  | .empty => "cannot parse integer from empty string"
  | .invalidDigit => "invalid digit found in string"
  | .tooLarge => "number too large to fit in target type"

def isDigit (c : Char) : Bool := decide ('0' ≤ c) && decide (c ≤ '9')

def digitValue (c : Char) : Nat := c.toNat - '0'.toNat

/-- Reads digits onto `n`. The first fault from the left decides the error: a character that is no
digit, or a digit that carries the number past `max`. -/
def readDigits (max : Nat) : Nat → List Char → Except IntegerError Nat
  | n, [] => .ok n
  | n, c :: cs =>
    if isDigit c then
      if n * 10 + digitValue c ≤ max then readDigits max (n * 10 + digitValue c) cs
      else .error .tooLarge
    else .error .invalidDigit

def readUnsigned (max : Nat) : List Char → Except IntegerError Nat
  | [] => .error .empty
  | ['+'] => .error .invalidDigit
  | '+' :: cs => readDigits max 0 cs
  | cs => readDigits max 0 cs

def readUInt32? (s : String) : Option UInt32 :=
  match readUnsigned 4294967295 s.toList with
  | .ok n => some n.toUInt32
  | .error _ => none

end DiscordBot.Decimal
