import DiscordBot.Json.Token

/-! Quoted text in TOML: basic strings with escapes, literal ones without, and both over several lines. -/

namespace DiscordBot.Toml

open Json (hexValue?)

def isBlank (c : Char) : Bool := c == ' ' || c == '\t'

def isControl (c : Char) : Bool := (c.toNat < 0x20 && c != '\t') || c.toNat == 0x7f

def afterBreak? : List Char → Option (List Char)
  | '\n' :: r => some r
  | '\r' :: '\n' :: r => some r
  | _ => none

def charOfCode? (digits : List Char) : Option Char := do
  let ds ← digits.mapM hexValue?
  let n := ds.foldl (fun n d => n * 16 + d) 0
  if n < 0xD800 ∨ (0xDFFF < n ∧ n < 0x110000) then some (Char.ofNat n) else none

def simpleEscape? : Char → Option Char
  | '"' => some '"'
  | '\\' => some '\\'
  | 'b' => some '\x08'
  | 'e' => some '\x1b'
  | 'f' => some '\x0c'
  | 'n' => some '\n'
  | 'r' => some '\r'
  | 't' => some '\t'
  | _ => none

def prepend (cs : List Char) (x : Option (List Char × List Char)) : Option (List Char × List Char) :=
  x.map fun (text, rest) => (cs ++ text, rest)

def scanBasic : List Char → Option (List Char × List Char)
  | [] => none
  | '"' :: r => some ([], r)
  | '\\' :: 'x' :: a :: b :: r => do prepend [← charOfCode? [a, b]] (scanBasic r)
  | '\\' :: 'u' :: a :: b :: c :: d :: r => do prepend [← charOfCode? [a, b, c, d]] (scanBasic r)
  | '\\' :: 'U' :: a :: b :: c :: d :: e :: f :: g :: h :: r => do
    prepend [← charOfCode? [a, b, c, d, e, f, g, h]] (scanBasic r)
  | '\\' :: e :: r => do prepend [← simpleEscape? e] (scanBasic r)
  | c :: r => if isControl c then none else prepend [c] (scanBasic r)

def scanLiteral : List Char → Option (List Char × List Char)
  | [] => none
  | '\'' :: r => some ([], r)
  | c :: r => if isControl c then none else prepend [c] (scanLiteral r)

def joinsLines (behind : List Char) : Bool := (afterBreak? (behind.dropWhile isBlank)).isSome

/-- Reads a basic string of several lines behind its opening quotes. In a gap between joined lines all
blanks and line breaks are skipped. Up to two quotes may stand right in front of the closing ones. -/
def scanBasicLines (gap : Bool) : List Char → Option (List Char × List Char)
  | [] => none
  | '"' :: '"' :: '"' :: '"' :: '"' :: r => some (['"', '"'], r)
  | '"' :: '"' :: '"' :: '"' :: r => some (['"'], r)
  | '"' :: '"' :: '"' :: r => some ([], r)
  | '\\' :: 'x' :: a :: b :: r => do prepend [← charOfCode? [a, b]] (scanBasicLines false r)
  | '\\' :: 'u' :: a :: b :: c :: d :: r => do
    prepend [← charOfCode? [a, b, c, d]] (scanBasicLines false r)
  | '\\' :: 'U' :: a :: b :: c :: d :: e :: f :: g :: h :: r => do
    prepend [← charOfCode? [a, b, c, d, e, f, g, h]] (scanBasicLines false r)
  | '\\' :: e :: r =>
    match simpleEscape? e with
    | some c => prepend [c] (scanBasicLines false r)
    | none => if joinsLines (e :: r) then scanBasicLines true r else none
  | '\r' :: '\n' :: r =>
    if gap then scanBasicLines true r else prepend ['\r', '\n'] (scanBasicLines false r)
  | c :: r =>
    if isBlank c || c == '\n' then
      if gap then scanBasicLines true r else prepend [c] (scanBasicLines false r)
    else if isControl c then none
    else prepend [c] (scanBasicLines false r)

def scanLiteralLines : List Char → Option (List Char × List Char)
  | [] => none
  | '\'' :: '\'' :: '\'' :: '\'' :: '\'' :: r => some (['\'', '\''], r)
  | '\'' :: '\'' :: '\'' :: '\'' :: r => some (['\''], r)
  | '\'' :: '\'' :: '\'' :: r => some ([], r)
  | '\r' :: '\n' :: r => prepend ['\r', '\n'] (scanLiteralLines r)
  | c :: r => if isControl c && c != '\n' then none else prepend [c] (scanLiteralLines r)

def dropFirstBreak (cs : List Char) : List Char := (afterBreak? cs).getD cs

end DiscordBot.Toml
