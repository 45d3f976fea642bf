import DiscordBot.Channel
import DiscordBot.Json.Nested

/-! The options of a command: its arguments, and the commands and groups nested in it. -/

namespace DiscordBot

open Json (Fields fields? required optional defaulted field optionalField record)

inductive OptionType where
  | subCommand
  | subCommandGroup
  | string
  | integer
  | boolean
  | user
  | channel
  | role
  | mentionable
  | number
  | unknown (n : UInt8)
  deriving DecidableEq, Repr, Inhabited

namespace OptionType

def code : OptionType → UInt8
  | subCommand => 1
  | subCommandGroup => 2
  | string => 3
  | integer => 4
  | boolean => 5
  | user => 6
  | channel => 7
  | role => 8
  | mentionable => 9
  | number => 10
  | unknown n => n

def ofCode (n : UInt8) : OptionType :=
  match n with
  | 1 => subCommand
  | 2 => subCommandGroup
  | 3 => string
  | 4 => integer
  | 5 => boolean
  | 6 => user
  | 7 => channel
  | 8 => role
  | 9 => mentionable
  | 10 => number
  | n => unknown n

def label : OptionType → String
  | subCommand => "SubCommand"
  | subCommandGroup => "SubCommandGroup"
  | string => "String"
  | integer => "Integer"
  | boolean => "Boolean"
  | user => "User"
  | channel => "Channel"
  | role => "Role"
  | mentionable => "Mentionable"
  | number => "Number"
  | unknown n => unknownLabel n

instance : Coded OptionType := ⟨code, ofCode, label⟩

end OptionType

def OptionType.isNumeric : OptionType → Bool
  | integer | number => true
  | _ => false

def OptionType.acceptsChoices : OptionType → Bool
  | string | integer | number => true
  | _ => false

inductive ChoiceValue where
  | integer (n : Int64)
  | number (x : Float)
  | string (s : String)
  deriving Inhabited

namespace ChoiceValue

def fits : ChoiceValue → OptionType → Bool
  | string _, .string => true
  | integer _, .integer => true
  | integer _, .number | number _, .number => true
  | _, _ => false

def same : ChoiceValue → ChoiceValue → Bool
  -- NaN differs from itself.
  | integer m, integer n => m == n
  | number x, number y => x == y
  | string s, string t => s == t
  | _, _ => false

instance : BEq ChoiceValue := ⟨same⟩

def toJson : ChoiceValue → Json
  | integer n => DiscordBot.toJson n
  | number x => Json.ofFloat x
  | string s => .str s

def ofJson? : Json → Option ChoiceValue
  -- An integer if it fits 64 bits, else a number.
  | .str s => some (string s)
  | j =>
    match (DiscordBot.ofJson? j : Option Int64) with
    | some n => some (integer n)
    | none => j.asFloat?.map number

instance : JsonForm ChoiceValue := ⟨toJson, ofJson?⟩

end ChoiceValue

structure Choice where
  name : String
  value : ChoiceValue
  deriving BEq, Inhabited

namespace Choice

def fieldNames : List String := ["name", "value"]

def toJson (c : Choice) : Json := record [field "name" c.name, field "value" c.value]

def ofJson? (j : Json) : Option Choice := do
  let fs ← fields? fieldNames j
  some { name := ← required fs "name", value := ← required fs "value" }

instance : JsonForm Choice := ⟨toJson, ofJson?⟩

end Choice

structure CommandOption where
  kind : OptionType
  name : String
  description : String
  required : Option Bool
  choices : Option (List Choice)
  options : Option (List CommandOption)
  channelTypes : Option (List ChannelType)
  minValue : Option Float
  maxValue : Option Float
  deriving Inhabited

namespace CommandOption

def fieldNames : List String := [
  "type", "name", "description", "required", "choices", "options", "channel_types", "min_value",
  "max_value"]

def named (kind : OptionType) (name description : String) : CommandOption :=
  ⟨kind, name, description, none, none, none, none, none, none⟩

def fieldsAround (o : CommandOption) (options : Option Json) : List (String × Option Json) := [
  field "type" o.kind,
  field "name" o.name,
  field "description" o.description,
  optionalField "required" o.required,
  optionalField "choices" o.choices,
  ("options", options),
  optionalField "channel_types" o.channelTypes,
  optionalField "min_value" o.minValue,
  optionalField "max_value" o.maxValue]

mutual

def toJson : CommandOption → Json
  | ⟨kind, name, description, required, choices, options, channelTypes, minValue, maxValue⟩ =>
    record (fieldsAround
      ⟨kind, name, description, required, choices, options, channelTypes, minValue, maxValue⟩
      (nestedToJson options))

def nestedToJson : Option (List CommandOption) → Option Json
  | none => none
  | some os => some (.arr (listToJson os))

def listToJson : List CommandOption → List Json
  | [] => []
  | o :: os => toJson o :: listToJson os

end

def ofFields? (fs : Fields) (options : Option (List CommandOption)) : Option CommandOption := do
  some {
    kind := ← Json.required fs "type"
    name := ← Json.required fs "name"
    description := ← Json.required fs "description"
    required := ← optional fs "required"
    choices := ← optional fs "choices"
    options := options
    channelTypes := ← optional fs "channel_types"
    minValue := ← optional fs "min_value"
    maxValue := ← optional fs "max_value" }

def ofJson? (j : Json) : Option CommandOption := Json.nested? fieldNames "options" ofFields? j

instance : JsonForm CommandOption := ⟨toJson, ofJson?⟩

end CommandOption

end DiscordBot
