import DiscordBot.Json.Member
import DiscordBot.Time.Timestamp

/-! Types with a JSON form. A record is an object, or an array of its fields in their order; unknown
members are passed over, and `null` counts as absent where a field may be absent. -/

namespace DiscordBot

class JsonForm (α : Type) where
  toJson : α → Json
  ofJson? : Json → Option α

export JsonForm (toJson ofJson?)

instance : JsonForm Json := ⟨id, some⟩

instance : JsonForm Bool := ⟨.bool, Json.asBool?⟩

instance : JsonForm String := ⟨.str, Json.asString?⟩

instance : JsonForm UInt8 where
  toJson n := .int n.toNat
  ofJson? j := (j.asIntWithin? 0 0xFF).map fun n => n.toNat.toUInt8

instance : JsonForm UInt32 where
  toJson n := .int n.toNat
  ofJson? j := (j.asIntWithin? 0 0xFFFFFFFF).map fun n => n.toNat.toUInt32

instance : JsonForm UInt64 where
  toJson n := .int n.toNat
  ofJson? j := (j.asIntWithin? 0 0xFFFFFFFFFFFFFFFF).map fun n => n.toNat.toUInt64

instance : JsonForm Int32 where
  toJson n := .int n.toInt
  ofJson? j := (j.asIntWithin? (-0x80000000) 0x7FFFFFFF).map Int32.ofInt

instance : JsonForm Int64 where
  toJson n := .int n.toInt
  ofJson? j := (j.asIntWithin? (-0x8000000000000000) 0x7FFFFFFFFFFFFFFF).map Int64.ofInt

instance : JsonForm Float := ⟨Json.ofFloat, Json.asFloat?⟩

instance : JsonForm Time.Timestamp where
  toJson t := .str t.text
  ofJson? j := j.asString?.bind Time.Timestamp.parse?

instance {α : Type} [JsonForm α] : JsonForm (List α) where
  toJson xs := .arr (xs.map toJson)
  ofJson? j := j.asItems?.bind fun items => items.mapM ofJson?

namespace Json

abbrev Fields := List (String × Json)

/-- The fields of a record that is given as an object, or as an array with no more items than the record
has fields. -/
def fields? (names : List String) : Json → Option Fields
  | .obj ms => some ms
  | .arr items => if items.length ≤ names.length then some (names.zip items) else none
  | _ => none

def required {α : Type} [JsonForm α] (fs : Fields) (name : String) : Option α :=
  (fs.lookup name).bind ofJson?

def optional {α : Type} [JsonForm α] (fs : Fields) (name : String) : Option (Option α) :=
  match fs.lookup name with
  | none | some .null => some none
  | some j => (ofJson? j).map some

def defaulted {α : Type} [JsonForm α] (fs : Fields) (name : String) (value : α) : Option α :=
  match fs.lookup name with
  | none => some value
  | some j => ofJson? j

def field {α : Type} [JsonForm α] (name : String) (x : α) : String × Option Json :=
  (name, some (toJson x))

def optionalField {α : Type} [JsonForm α] (name : String) (x : Option α) : String × Option Json :=
  (name, x.map toJson)

def nullableField {α : Type} [JsonForm α] (name : String) (x : Option α) : String × Json :=
  (name, orNull (x.map toJson))

def record (fs : List (String × Option Json)) : Json :=
  .obj (fs.filterMap fun f => f.2.map fun j => (f.1, j))

end Json

/-- A kind that is a number on the wire. Numbers without a name of their own are kept. -/
class Coded (α : Type) where
  code : α → UInt8
  ofCode : UInt8 → α
  label : α → String

instance {α : Type} [Coded α] : JsonForm α where
  toJson x := toJson (Coded.code x)
  ofJson? j := (ofJson? j : Option UInt8).map Coded.ofCode

def unknownLabel (n : UInt8) : String := "Unknown(" ++ toString n.toNat ++ ")"

end DiscordBot
