import DiscordBot.Toml.Value

/-! Records read from TOML values. A record is a table, or an array of its fields in their order; unknown
keys and items behind the last field are passed over. -/

namespace DiscordBot.Toml

namespace Value

def string? : Value → Option String
  | string s => some s
  | _ => none

def boolean? : Value → Option Bool
  | boolean b => some b
  | _ => none

def float? : Value → Option Float
  | float x => some x
  | integer n => if -0x8000000000000000 ≤ n ∧ n ≤ 0xFFFFFFFFFFFFFFFF then some (Float.ofInt n) else none
  | _ => none

def natUpTo? (greatest : Nat) : Value → Option Nat
  | integer n => if 0 ≤ n ∧ n ≤ greatest then some n.toNat else none
  | _ => none

def uint8? (v : Value) : Option UInt8 := (v.natUpTo? 0xFF).map Nat.toUInt8

def uint32? (v : Value) : Option UInt32 := (v.natUpTo? 0xFFFFFFFF).map Nat.toUInt32

def items? : Value → Option (List Value)
  | array items => some items
  | tables latestFirst => some (latestFirst.reverse.map (table .header))
  | _ => none

def list? {α : Type} (read : Value → Option α) (v : Value) : Option (List α) :=
  v.items?.bind fun items => items.mapM read

end Value

structure Record where
  fields : Members
  positional : Bool

namespace Record

def ofValue? (names : List String) (v : Value) : Option Record :=
  match v with
  | .table _ ms => some ⟨ms, false⟩
  | v => v.items?.map fun items => ⟨names.zip items, true⟩

variable {α : Type} (r : Record) (name : String) (read : Value → Option α)

def required : Option α := (r.fields.lookup name).bind read

def optional : Option (Option α) :=
  match r.fields.lookup name with
  | some v => (read v).map some
  | none => if r.positional then none else some none

def defaulted (value : α) : Option α :=
  match r.fields.lookup name with
  | some v => read v
  | none => some value

end Record

end DiscordBot.Toml
