import DiscordBot.Decimal.Reader
import DiscordBot.Json.Token
import DiscordBot.Text.Basic

/-! Hosts that are numbers. -/

namespace DiscordBot.Url

open Decimal (isDigit digitsValue)
open Json (hexValue?)

def hexDigits? (cs : List Char) : Option Nat := do
  let ds ← cs.mapM hexValue?
  some (ds.foldl (fun n d => n * 16 + d) 0)

def addressPart? (cs : List Char) : Option Nat :=
  match cs with
  | [] => none
  | '0' :: 'x' :: r | '0' :: 'X' :: r => hexDigits? r
  | '0' :: r =>
    if r.all fun c => '0' ≤ c && c ≤ '7' then
      some (r.foldl (fun n c => n * 8 + Decimal.digitValue c) 0)
    else none
  | r => if r.all isDigit then some (digitsValue r) else none

def nameParts (cs : List Char) : List (List Char) :=
  let parts := cs.splitOn '.'
  if 1 < parts.length && parts.getLast? == some [] then parts.dropLast else parts

def endsInNumber (cs : List Char) : Bool :=
  match (nameParts cs).getLast? with
  | none | some [] => false
  | some part =>
    part.all isDigit ||
      match part with
      | '0' :: 'x' :: r | '0' :: 'X' :: r => (hexDigits? r).isSome
      | _ => false

def ipv4? (cs : List Char) : Option Nat := do
  let parts := nameParts cs
  if 4 < parts.length then none
  else
    let numbers ← parts.mapM addressPart?
    let last ← numbers.getLast?
    if numbers.dropLast.all (· ≤ 255) && last < Nat.pow 256 (5 - numbers.length) then
      let front := numbers.dropLast.foldl (fun n b => n * 256 + b) 0
      some (front * Nat.pow 256 (5 - numbers.length) + last)
    else none

def pieceOf? (cs : List Char) : Option Nat :=
  if cs.isEmpty || 4 < cs.length then none else hexDigits? cs

def dottedPieces? (cs : List Char) : Option (List Nat) := do
  let bytes ← (cs.splitOn '.').mapM fun b =>
    if b.isEmpty || !b.all isDigit || 3 < b.length || (b.head? == some '0' && 1 < b.length) then none
    else if digitsValue b ≤ 255 then some (digitsValue b) else none
  match bytes with
  | [a, b, c, d] => some [a * 256 + b, c * 256 + d]
  | _ => none

def pieces? (cs : List Char) : Option (List Nat) := do
  if cs.isEmpty then some []
  else
    let groups := cs.splitOn ':'
    let front ← groups.dropLast.mapM pieceOf?
    let last ← groups.getLast?
    if last.contains '.' then some (front ++ (← dottedPieces? last))
    else some (front ++ [← pieceOf? last])

def splitDouble? : List Char → Option (List Char × List Char)
  | [] => none
  | ':' :: ':' :: r => some ([], r)
  | c :: r => (splitDouble? r).map fun (a, b) => (c :: a, b)

def ipv6? (cs : List Char) : Option (List Nat) := do
  match splitDouble? cs with
  | none =>
    let ps ← pieces? cs
    if ps.length == 8 then some ps else none
  | some (front, back) =>
    if front.contains '.' then none
    else
      let a ← pieces? front
      let b ← pieces? back
      if a.length + b.length ≤ 7 then some (a ++ List.replicate (8 - a.length - b.length) 0 ++ b)
      else none

def zeroRun (ps : List Nat) : Nat := (ps.takeWhile (· == 0)).length

def longestZeroRun : List Nat → Nat × Nat
  | [] => (0, 0)
  | p :: ps =>
    let (place, size) := longestZeroRun ps
    if size ≤ zeroRun (p :: ps) then (0, zeroRun (p :: ps)) else (place + 1, size)

def piecesText (ps : List Nat) : String :=
  Text.joinWith ":" (ps.map fun p => String.ofList (Nat.toDigits 16 p))

def ipv6Text (ps : List Nat) : String :=
  let (place, size) := longestZeroRun ps
  if size < 2 then piecesText ps
  else piecesText (ps.take place) ++ "::" ++ piecesText (ps.drop (place + size))

end DiscordBot.Url
