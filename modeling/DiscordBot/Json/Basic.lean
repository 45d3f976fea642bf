/-! JSON values. Numbers are whole or finite floats; an object keeps its members in a list. -/

namespace DiscordBot

abbrev FiniteFloat := { x : Float // x.isFinite = true }

inductive Json where
  | null
  | bool (b : Bool)
  | int (n : Int)
  | float (x : FiniteFloat)
  | str (s : String)
  | arr (items : List Json)
  | obj (members : List (String × Json))
  deriving Inhabited

namespace Json

def ofFloat (x : Float) : Json :=
  if h : x.isFinite = true then .float ⟨x, h⟩ else .null

def insertMember (key : String) (value : Json) : List (String × Json) → List (String × Json)
  | [] => [(key, value)]
  | (k, v) :: ms => if k == key then (k, value) :: ms else (k, v) :: insertMember key value ms

def get? (j : Json) (key : String) : Option Json :=
  match j with
  | .obj ms => ms.lookup key
  | _ => none

def set (j : Json) (key : String) (value : Json) : Json :=
  match j with
  | .obj ms => .obj (insertMember key value ms)
  | j => j

def isNull : Json → Bool
  | .null => true
  | _ => false

def asString? : Json → Option String
  | .str s => some s
  | _ => none

def asBool? : Json → Option Bool
  | .bool b => some b
  | _ => none

def asItems? : Json → Option (List Json)
  | .arr items => some items
  | _ => none

def asFloat? : Json → Option Float
  | .int n => some (Float.ofInt n)
  | .float x => some x.val
  | _ => none

def asIntWithin? (least greatest : Int) : Json → Option Int
  | .int n => if least ≤ n ∧ n ≤ greatest then some n else none
  | _ => none

def asInt64? : Json → Option Int := asIntWithin? (-0x8000000000000000) 0x7FFFFFFFFFFFFFFF

def asUInt64? (j : Json) : Option Nat := (asIntWithin? 0 0xFFFFFFFFFFFFFFFF j).map Int.toNat

def removeNull : Json → Json
  | .obj ms => .obj (ms.filter fun m => !m.2.isNull)
  | j => j

end Json

end DiscordBot
