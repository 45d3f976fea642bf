import DiscordBot.Decimal.Integer
import DiscordBot.Text.Basic
import DiscordBot.Time.Calendar

/-! Instants in UTC: reading them from RFC 3339 and its lenient forms, and writing them. -/

namespace DiscordBot.Time

/-- Whole seconds from 1970-01-01T00:00:00Z and nanoseconds above them. From `10^9` nanoseconds on the
instant lies in the leap second that follows the second. -/
structure Timestamp where
  seconds : Int
  nanos : Nat
  deriving DecidableEq, Repr, Inhabited

instance : LE Timestamp :=
  ⟨fun t u => t.seconds < u.seconds ∨ t.seconds = u.seconds ∧ t.nanos ≤ u.nanos⟩

def Timestamp.unixEpoch : Timestamp := ⟨0, 0⟩

def Timestamp.millis (t : Timestamp) : Int := t.seconds * 1000 + (t.nanos / 1000000 : Nat)

def pad (width n : Nat) : String :=
  let ds := toString n
  String.ofList (List.replicate (width - ds.length) '0') ++ ds

def yearText (y : Int) : String :=
  if 0 ≤ y ∧ y ≤ 9999 then pad 4 y.toNat
  else if y < 0 then "-" ++ pad 4 y.natAbs
  else "+" ++ pad 4 y.natAbs

def fractionText (nanos : Nat) : String :=
  if nanos == 0 then ""
  else if nanos % 1000000 == 0 then "." ++ pad 3 (nanos / 1000000)
  else if nanos % 1000 == 0 then "." ++ pad 6 (nanos / 1000)
  else "." ++ pad 9 nanos

def Timestamp.text (t : Timestamp) : String :=
  let d := Date.ofDays (t.seconds.fdiv 86400)
  let s := (t.seconds.fmod 86400).toNat
  let leap := decide (1000000000 ≤ t.nanos)
  yearText d.year ++ "-" ++ pad 2 d.month ++ "-" ++ pad 2 d.day ++ "T"
    ++ pad 2 (s / 3600) ++ ":" ++ pad 2 (s / 60 % 60) ++ ":"
    ++ pad 2 (if leap then s % 60 + 1 else s % 60)
    ++ fractionText (if leap then t.nanos - 1000000000 else t.nanos) ++ "Z"

abbrev Reader (α : Type) := List Char → Option (α × List Char)

def skipBlank (cs : List Char) : List Char := cs.dropWhile Text.isBlank

def number (width : Nat) : Reader Nat := fun cs =>
  let cs := skipBlank cs
  let ds := (cs.take width).takeWhile Decimal.isDigit
  if ds.isEmpty then none
  else some (ds.foldl (fun n c => n * 10 + Decimal.digitValue c) 0, cs.drop ds.length)

def year : Reader Int := fun cs =>
  match skipBlank cs with
  | '-' :: r => if (r.head?.map Decimal.isDigit).getD false then
      (number r.length r).map fun (n, r) => (-(n : Int), r) else none
  | '+' :: r => if (r.head?.map Decimal.isDigit).getD false then
      (number r.length r).map fun (n, r) => ((n : Int), r) else none
  | r => (number 4 r).map fun (n, r) => ((n : Int), r)

def mark (c : Char) : Reader Unit := fun cs =>
  match skipBlank cs with
  | d :: r => if d == c then some ((), r) else none
  | [] => none

def fraction : Reader Nat := fun cs =>
  match cs with
  | '.' :: r =>
    let ds := r.takeWhile Decimal.isDigit
    if ds.isEmpty then none
    else
      let kept := ds.take 9
      let n := kept.foldl (fun n c => n * 10 + Decimal.digitValue c) 0
      some (n * Nat.pow 10 (9 - kept.length), r.drop ds.length)
  | r => some (0, r)

def twoDigits : Reader Nat := fun cs =>
  match cs with
  | a :: b :: r =>
    if Decimal.isDigit a && Decimal.isDigit b then
      some (Decimal.digitValue a * 10 + Decimal.digitValue b, r)
    else none
  | _ => none

def offset : Reader Int := fun cs =>
  match skipBlank cs with
  | [] => none
  | c :: r =>
    if c == 'Z' || c == 'z' then some (0, r)
    else if (c == 'u' || c == 'U') && (r.take 2 |>.map fun d => d.toUpper) == ['T', 'C'] then
      some (0, r.drop 2)
    else if c == '+' || c == '-' || c == '\u2212' then do
      let (hours, r) ← twoDigits r
      let (minutes, r) ← twoDigits (r.dropWhile fun d => d == ':' || Text.isBlank d)
      if 60 ≤ minutes then none
      else
        let s : Int := hours * 3600 + minutes * 60
        some (if c == '+' then s else -s, r)
    else none

def leastYear : Int := -262143

def greatestYear : Int := 262142

def yearInRange (y : Int) : Bool := leastYear ≤ y && y ≤ greatestYear

def Timestamp.ofMillis? (ms : Int) : Option Timestamp :=
  let seconds := ms.fdiv 1000
  if yearInRange (Date.ofDays (seconds.fdiv 86400)).year then
    some ⟨seconds, (ms.fmod 1000).toNat * 1000000⟩
  else none

def Timestamp.parse? (s : String) : Option Timestamp := do
  let (y, r) ← year s.toList
  let (_, r) ← mark '-' r
  let (mo, r) ← number 2 r
  let (_, r) ← mark '-' r
  let (d, r) ← number 2 r
  let r ← match r with
    | c :: r => if c == 'T' || c == 't' || c == ' ' then some r else none
    | [] => none
  let (h, r) ← number 2 r
  let (_, r) ← mark ':' r
  let (mi, r) ← number 2 r
  let (_, r) ← mark ':' r
  let (sec, r) ← number 2 r
  let (nanos, r) ← fraction r
  let (off, r) ← offset r
  let date : Date := ⟨y, mo, d⟩
  if !(skipBlank r).isEmpty || !yearInRange y || !date.isValid || 24 ≤ h || 60 ≤ mi || 61 ≤ sec
      || 86400 ≤ off.natAbs then none
  else
    let leap := sec == 60
    let second : Int := date.toDays * 86400 + h * 3600 + mi * 60 + (if leap then 59 else sec) - off
    let t : Timestamp := ⟨second, if leap then nanos + 1000000000 else nanos⟩
    if yearInRange (Date.ofDays (second.fdiv 86400)).year then some t else none

end DiscordBot.Time
