import DiscordBot.Json.Number

/-! The tokens of JSON text. -/

namespace DiscordBot.Json

inductive StringUnit where
  | char (c : Char)
  | code (n : Nat)

inductive Token where
  | openObject
  | closeObject
  | openArray
  | closeArray
  | colon
  | comma
  | string (units : List StringUnit)
  | number (text : NumberText)
  | bool (b : Bool)
  | null

def hexValue? (c : Char) : Option Nat :=
  if '0' ≤ c ∧ c ≤ '9' then some (c.toNat - '0'.toNat)
  else if 'a' ≤ c ∧ c ≤ 'f' then some (c.toNat - 'a'.toNat + 10)
  else if 'A' ≤ c ∧ c ≤ 'F' then some (c.toNat - 'A'.toNat + 10)
  else none

def hexCode? (a b c d : Char) : Option Nat := do
  let a ← hexValue? a
  let b ← hexValue? b
  let c ← hexValue? c
  let d ← hexValue? d
  some (((a * 16 + b) * 16 + c) * 16 + d)

def simpleEscape? : Char → Option Char
  | '"' => some '"'
  | '\\' => some '\\'
  | '/' => some '/'
  | 'b' => some '\x08'
  | 'f' => some '\x0c'
  | 'n' => some '\n'
  | 'r' => some '\r'
  | 't' => some '\t'
  | _ => none

def scanString : List Char → Option (List StringUnit × List Char)
  | [] => none
  | '"' :: r => some ([], r)
  | '\\' :: 'u' :: a :: b :: c :: d :: r => do
    let n ← hexCode? a b c d
    let (us, r) ← scanString r
    some (.code n :: us, r)
  | '\\' :: e :: r => do
    let c ← simpleEscape? e
    let (us, r) ← scanString r
    some (.char c :: us, r)
  | c :: r =>
    if c.toNat < 0x20 then none
    else do
      let (us, r) ← scanString r
      some (.char c :: us, r)

/-- The text of a string. A code unit of a surrogate pair must have its partner right behind it. -/
def joinUnits : List StringUnit → Option (List Char)
  | [] => some []
  | .char c :: us => (joinUnits us).map (c :: ·)
  | .code hi :: .code lo :: us =>
    if 0xD800 ≤ hi ∧ hi ≤ 0xDBFF then
      if 0xDC00 ≤ lo ∧ lo ≤ 0xDFFF then
        (joinUnits us).map (Char.ofNat (0x10000 + (hi - 0xD800) * 0x400 + (lo - 0xDC00)) :: ·)
      else none
    else if 0xDC00 ≤ hi ∧ hi ≤ 0xDFFF then none
    else (joinUnits (.code lo :: us)).map (Char.ofNat hi :: ·)
  | .code n :: us =>
    if 0xD800 ≤ n ∧ n ≤ 0xDFFF then none else (joinUnits us).map (Char.ofNat n :: ·)

def scanNumber (negative : Bool) (cs : List Char) : Option (NumberText × List Char) := do
  let whole := cs.takeWhile Decimal.isDigit
  let r := cs.dropWhile Decimal.isDigit
  if whole.isEmpty || (whole.head? == some '0' && 1 < whole.length) then none
  let (fraction, r) ← match r with
    | '.' :: r =>
      let ds := r.takeWhile Decimal.isDigit
      if ds.isEmpty then none else some (ds, r.dropWhile Decimal.isDigit)
    | r => some ([], r)
  let (exponent, r) ← match r with
    | [] => some (none, [])
    | e :: r' =>
      if e == 'e' || e == 'E' then
        let (minus, r') := match r' with
          | '+' :: r' => (false, r')
          | '-' :: r' => (true, r')
          | r' => (false, r')
        let ds := r'.takeWhile Decimal.isDigit
        if ds.isEmpty then none else some (some (minus, ds), r'.dropWhile Decimal.isDigit)
      else some (none, e :: r')
  some (⟨negative, whole, fraction, exponent⟩, r)

def scanToken : List Char → Option (Token × List Char)
  | [] => none
  | '\x7b' :: r => some (.openObject, r)
  | '\x7d' :: r => some (.closeObject, r)
  | '[' :: r => some (.openArray, r)
  | ']' :: r => some (.closeArray, r)
  | ':' :: r => some (.colon, r)
  | ',' :: r => some (.comma, r)
  | '"' :: r => (scanString r).map fun (us, r) => (.string us, r)
  | 't' :: 'r' :: 'u' :: 'e' :: r => some (.bool true, r)
  | 'f' :: 'a' :: 'l' :: 's' :: 'e' :: r => some (.bool false, r)
  | 'n' :: 'u' :: 'l' :: 'l' :: r => some (.null, r)
  | '-' :: r => (scanNumber true r).map fun (t, r) => (.number t, r)
  | r => (scanNumber false r).map fun (t, r) => (.number t, r)

def isSpace (c : Char) : Bool := c == ' ' || c == '\n' || c == '\t' || c == '\r'

def scanTokens : Nat → List Char → Option (List Token)
  -- Every token takes a character, so the length of the text is enough fuel.
  | fuel, cs =>
    match cs.dropWhile isSpace with
    | [] => some []
    | c :: r =>
      match fuel with
      | 0 => none
      | fuel + 1 => do
        let (t, r) ← scanToken (c :: r)
        let ts ← scanTokens fuel r
        some (t :: ts)

def tokens? (s : String) : Option (List Token) :=
  let cs := s.toList
  scanTokens cs.length cs

end DiscordBot.Json
