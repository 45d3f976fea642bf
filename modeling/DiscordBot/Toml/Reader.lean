import DiscordBot.Toml.Scalar

/-! TOML documents. -/

namespace DiscordBot.Toml

def skipSpace : Bool → List Char → Option (List Char)
  | _, [] => some []
  | _, '\n' :: r | _, '\r' :: '\n' :: r => skipSpace false r
  | true, c :: r => if isControl c then none else skipSpace true r
  | false, '#' :: r => skipSpace true r
  | false, c :: r => if isBlank c then skipSpace false r else some (c :: r)

def endLine (cs : List Char) : Option (List Char) :=
  match cs.dropWhile isBlank with
  | [] => some []
  | '#' :: r => skipSpace true r
  | r => (afterBreak? r).bind (skipSpace false)

def isBareKeyChar (c : Char) : Bool :=
  Decimal.isDigit c || ('a' ≤ c && c ≤ 'z') || ('A' ≤ c && c ≤ 'Z') || c == '_' || c == '-'

def scanKey (cs : List Char) : Option (String × List Char) :=
  match cs with
  | '"' :: r => (scanBasic r).map fun (k, r) => (String.ofList k, r)
  | '\'' :: r => (scanLiteral r).map fun (k, r) => (String.ofList k, r)
  | cs =>
    let k := cs.takeWhile isBareKeyChar
    if k.isEmpty then none else some (String.ofList k, cs.dropWhile isBareKeyChar)

def scanKeys : Nat → List Char → Option (List String × List Char)
  -- Every key takes a character, so the fuel is never short.
  | 0, _ => none
  | fuel + 1, cs => do
    let (key, r) ← scanKey (cs.dropWhile isBlank)
    match r.dropWhile isBlank with
    | '.' :: r =>
      let (keys, r) ← scanKeys fuel r
      some (key :: keys, r)
    | r => some ([key], r)

def text (x : Option (List Char × List Char)) : Option (Value × List Char) :=
  x.map fun (cs, r) => (.string (String.ofList cs), r)

mutual

def scanValue : Nat → Nat → List Char → Option (Value × List Char)
  | 0, _, _ => none
  | fuel + 1, depth, cs =>
    match cs, depth with
    | '"' :: '"' :: '"' :: r, _ => text (scanBasicLines false (dropFirstBreak r))
    | '"' :: r, _ => text (scanBasic r)
    | '\'' :: '\'' :: '\'' :: r, _ => text (scanLiteralLines (dropFirstBreak r))
    | '\'' :: r, _ => text (scanLiteral r)
    | '[' :: r, depth + 1 => (scanItems fuel depth r).map fun (vs, r) => (.array vs, r)
    | '\x7b' :: r, depth + 1 => (scanMembers fuel depth [] r).map fun (ms, r) => (.table .inline ms, r)
    | cs, _ => scanPlain cs

def scanItems : Nat → Nat → List Char → Option (List Value × List Char)
  | 0, _, _ => none
  | fuel + 1, depth, cs => do
    match ← skipSpace false cs with
    | ']' :: r => some ([], r)
    | cs =>
      let (v, r) ← scanValue fuel depth cs
      match ← skipSpace false r with
      | ',' :: r =>
        let (vs, r) ← scanItems fuel depth r
        some (v :: vs, r)
      | ']' :: r => some ([v], r)
      | _ => none

def scanMembers : Nat → Nat → Members → List Char → Option (Members × List Char)
  | 0, _, _, _ => none
  | fuel + 1, depth, ms, cs => do
    match ← skipSpace false cs with
    | '\x7d' :: r => some (ms, r)
    | cs =>
      let (keys, r) ← scanKeys cs.length cs
      match ← skipSpace false r with
      | '=' :: r =>
        let (v, r) ← scanValue fuel depth (← skipSpace false r)
        let ms ← Members.addDotted v keys ms
        match ← skipSpace false r with
        | ',' :: r => scanMembers fuel depth ms r
        | '\x7d' :: r => some (ms, r)
        | _ => none
      | _ => none

end

def greatestDepth : Nat := 80

def readLines : Nat → List String → Members → List Char → Option Members
  | _, _, ms, [] => some ms
  | 0, _, _, _ => none
  | fuel + 1, _, ms, '[' :: '[' :: r => do
    let (keys, r) ← scanKeys r.length r
    match r with
    | ']' :: ']' :: r => readLines fuel keys (← ms.atHeader Members.openElement keys) (← endLine r)
    | _ => none
  | fuel + 1, _, ms, '[' :: r => do
    let (keys, r) ← scanKeys r.length r
    match r with
    | ']' :: r => readLines fuel keys (← ms.atHeader Members.openTable keys) (← endLine r)
    | _ => none
  | fuel + 1, header, ms, cs => do
    let (keys, r) ← scanKeys cs.length cs
    match r with
    | '=' :: r =>
      let (v, r) ← scanValue r.length greatestDepth (r.dropWhile isBlank)
      readLines fuel header (← ms.update (Members.addDotted v keys) header) (← endLine r)
    | _ => none

def parse? (s : String) : Option Members := do
  let cs := match s.toList with
    | '\ufeff' :: cs => cs
    | cs => cs
  readLines cs.length [] [] (← skipSpace false cs)

end DiscordBot.Toml
