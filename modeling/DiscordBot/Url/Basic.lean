import DiscordBot.Url.Address
import DiscordBot.Url.Idna.Domain
import DiscordBot.Url.Percent

/-! Absolute URLs. -/

namespace DiscordBot

namespace Url

inductive Fault where
  | noScheme
  | emptyHost
  | port
  | ipv4
  | ipv6
  | domain
  | hostCharacter
  deriving DecidableEq, Repr

def Fault.message : Fault → String
  | noScheme => "relative URL without a base"
  | emptyHost => "empty host"
  | port => "invalid port number"
  | ipv4 => "invalid IPv4 address"
  | ipv6 => "invalid IPv6 address"
  | domain => "invalid international domain name"
  | hostCharacter => "invalid domain character"

inductive Host where
  | name (s : String)
  | ipv4 (n : Nat)
  | ipv6 (pieces : List Nat)
  deriving DecidableEq, Repr

end Url

structure Url where
  scheme : String
  host : Option Url.Host
  port : Option Nat
  path : String
  query : Option String
  deriving DecidableEq, Repr

namespace Url

def hasHost (scheme : String) : Bool := ["http", "https", "ws", "wss", "ftp"].contains scheme

def isSpecial (scheme : String) : Bool := scheme == "file" || hasHost scheme

def usualPort? (scheme : String) : Option Nat :=
  match scheme with
  | "http" | "ws" => some 80
  | "https" | "wss" => some 443
  | "ftp" => some 21
  | _ => none

def trimmed (s : String) : List Char :=
  let isOuter (c : Char) : Bool := c.toNat ≤ 0x20
  ((s.toList.dropWhile isOuter).reverse.dropWhile isOuter).reverse.filter fun c =>
    c != '\t' && c != '\n' && c != '\r'

def isLetter (c : Char) : Bool := ('a' ≤ c && c ≤ 'z') || ('A' ≤ c && c ≤ 'Z')

def isSchemeChar (c : Char) : Bool :=
  isLetter c || Decimal.isDigit c || c == '+' || c == '-' || c == '.'

def splitScheme? (cs : List Char) : Option (String × List Char) :=
  match cs.dropWhile isSchemeChar with
  | ':' :: rest =>
    if cs.head?.any isLetter then
      some (String.ofList ((cs.takeWhile isSchemeChar).map Idna.lowerAscii), rest)
    else none
  | _ => none

def isSlash (special : Bool) (c : Char) : Bool := c == '/' || (special && c == '\\')

def endsAuthority (special : Bool) (c : Char) : Bool := isSlash special c || c == '?' || c == '#'

def splitUser (special : Bool) (cs : List Char) : Bool × List Char :=
  let authority := cs.takeWhile fun c => !endsAuthority special c
  let rest := cs.dropWhile fun c => !endsAuthority special c
  if authority.contains '@' then
    (true, (authority.reverse.takeWhile (· != '@')).reverse ++ rest)
  else (false, cs)

def splitHost (special : Bool) : Bool → List Char → List Char × List Char
  | _, [] => ([], [])
  | bracketed, c :: cs =>
    if (c == ':' && !bracketed) || endsAuthority special c then ([], c :: cs)
    else
      let bracketed := if c == '[' then true else if c == ']' then false else bracketed
      let (host, rest) := splitHost special bracketed cs
      (c :: host, rest)

def bracketed? (cs : List Char) : Option (Except Fault Host) :=
  match cs with
  | '[' :: r =>
    some (match r.getLast?, ipv6? r.dropLast with
      | some ']', some pieces => .ok (.ipv6 pieces)
      | _, _ => .error .ipv6)
  | _ => none

def domainHost (cs : List Char) : Except Fault Host :=
  match bracketed? cs with
  | some host => host
  | none =>
    match (Percent.decode? cs).bind Idna.ascii? with
    | none => .error .domain
    | some [] => .error .emptyHost
    | some name =>
      if endsInNumber name then
        match ipv4? name with
        | some n => .ok (.ipv4 n)
        | none => .error .ipv4
      else .ok (.name (String.ofList name))

def opaqueHost (cs : List Char) : Except Fault Host :=
  match bracketed? cs with
  | some host => host
  | none =>
    if cs.any fun c =>
        c != '%' && Idna.isForbidden c && (c.toNat == 0 || 0x20 ≤ c.toNat) && c.toNat != 0x7f
    then .error .hostCharacter
    else .ok (.name (String.ofList (Percent.encode [] cs)))

def readPort (cs : List Char) : Except Fault (Option Nat × List Char) :=
  let digits := cs.takeWhile Decimal.isDigit
  let rest := cs.dropWhile Decimal.isDigit
  let ended := match rest with
    | [] => true
    | c :: _ => endsAuthority true c
  if 65535 < Decimal.digitsValue digits || !ended then .error .port
  else .ok (if digits.isEmpty then none else some (Decimal.digitsValue digits), rest)

def isDot (cs : List Char) : Bool := ["." , "%2e"].contains (String.ofList (cs.map Idna.lowerAscii))

def isDoubleDot (cs : List Char) : Bool :=
  ["..", ".%2e", "%2e.", "%2e%2e"].contains (String.ofList (cs.map Idna.lowerAscii))

def followSegments : List (List Char) → List (List Char) → List (List Char)
  | done, [] => done.reverse
  | done, [last] =>
    (if isDoubleDot last then [] :: done.drop 1
      else if isDot last then [] :: done
      else last :: done).reverse
  | done, s :: ss =>
    followSegments
      (if isDoubleDot s then done.drop 1 else if isDot s then done else s :: done) ss

def splitSegments (special : Bool) : List Char → List (List Char)
  | [] => [[]]
  | c :: cs =>
    if isSlash special c then [] :: splitSegments special cs
    else
      match splitSegments special cs with
      | [] => [[c]]
      | s :: ss => (c :: s) :: ss

def pathSet : List Char := [' ', '"', '#', '<', '>', '?', '\x60', '\x7b', '\x7d']

def querySet (special : Bool) : List Char :=
  [' ', '"', '#', '<', '>'] ++ if special then ['\''] else []

def normalPath (special : Bool) (cs : List Char) : String :=
  let segments := match cs with
    | [] => [[]]
    | c :: r => splitSegments special (if isSlash special c then r else c :: r)
  String.ofList ((followSegments [] segments).flatMap fun s => '/' :: Percent.encode pathSet s)

def readTarget (special : Bool) (cs : List Char) : String × Option String :=
  let cs := cs.takeWhile (· != '#')
  let path := cs.takeWhile (· != '?')
  let query := match cs.dropWhile (· != '?') with
    | [] => none
    | _ :: q => some (String.ofList (Percent.encode (querySet special) q))
  (if !special && path.isEmpty then "" else normalPath special path, query)

def readAuthority (scheme : String) (cs : List Char) : Except Fault Url := do
  let special := isSpecial scheme
  let (user, cs) := splitUser special cs
  let (host, rest) := splitHost special false cs
  if host.isEmpty && (special || user || rest.head? == some ':') then .error .emptyHost
  else
    let host ← if special then domainHost host else opaqueHost host
    let (port, rest) ← match rest with
      | ':' :: r => readPort r
      | r => .ok (none, r)
    let (path, query) := readTarget special rest
    .ok ⟨scheme, some host, if port == usualPort? scheme then none else port, path, query⟩

def isDriveLetter (cs : List Char) : Bool :=
  match cs with
  | [c, d] => isLetter c && (d == ':' || d == '|')
  | _ => false

def readFile (cs : List Char) : Except Fault Url := do
  let bare (cs : List Char) : Url :=
    let (path, query) := readTarget true cs
    ⟨"file", none, none, path, query⟩
  match cs with
  | a :: b :: r =>
    let host := r.takeWhile fun c => !endsAuthority true c
    if !isSlash true a || !isSlash true b then .ok (bare cs)
    else if host.isEmpty || isDriveLetter host then .ok (bare r)
    else
      let h ← domainHost host
      .ok { bare (r.drop host.length) with host := some h }
  | cs => .ok (bare cs)

def parse (s : String) : Except Fault Url :=
  match splitScheme? (trimmed s) with
  | none => .error .noScheme
  | some (scheme, rest) =>
    if scheme == "file" then readFile rest
    else if hasHost scheme then readAuthority scheme (rest.dropWhile (isSlash true))
    else
      match rest with
      | '/' :: '/' :: r => readAuthority scheme r
      | rest =>
        let (path, query) := readTarget false rest
        let path := if rest.head? == some '/' then path
          else String.ofList (Percent.encode [] ((rest.takeWhile (· != '#')).takeWhile (· != '?')))
        .ok ⟨scheme, none, none, path, query⟩

end Url

end DiscordBot
