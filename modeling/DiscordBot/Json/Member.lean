import DiscordBot.Json.Basic

/-! Members of an object by their keys. Where one is absent or has another form there is none, or a plain
value that stands for it. -/

namespace DiscordBot.Json

def orNull (x : Option Json) : Json := x.getD .null

def member (j : Json) (key : String) : Json := orNull (j.get? key)

def given? (j : Json) (key : String) : Option Json :=
  match j.get? key with
  | some .null => none
  | x => x

def string? (j : Json) (key : String) : Option String := (j.get? key).bind asString?

def string (j : Json) (key : String) : String := (j.string? key).getD ""

def nat? (j : Json) (key : String) : Option Nat := (j.get? key).bind asUInt64?

def nat (j : Json) (key : String) : Nat := (j.nat? key).getD 0

def integer (j : Json) (key : String) : Int := ((j.get? key).bind asInt64?).getD 0

def bool? (j : Json) (key : String) : Option Bool := (j.get? key).bind asBool?

def flag (j : Json) (key : String) : Bool := (j.bool? key).getD false

def items (j : Json) (key : String) : List Json := ((j.get? key).bind asItems?).getD []

def members (j : Json) (key : String) : List (String × Json) :=
  match j.get? key with
  | some (.obj ms) => ms
  | _ => []

end DiscordBot.Json
