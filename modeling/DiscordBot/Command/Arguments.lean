import DiscordBot.Interaction

/-! The arguments of a command call. Every declared option has an entry; one that was left out has no
value. -/

namespace DiscordBot

structure Arguments where
  entries : List (String × Option Json) := []
  deriving Inhabited

namespace Arguments

def put (name : String) (value : Option Json) :
    List (String × Option Json) → List (String × Option Json)
  | [] => [(name, value)]
  | (n, v) :: es => if n == name then (n, value) :: es else (n, v) :: put name value es

def insert (args : Arguments) (name : String) (value : Option Json) : Arguments :=
  ⟨put name value args.entries⟩

/-- The declared options without a value, then the values of those that were given. Of two values for
one name the last stays. -/
def ofOptions (declared : List CommandOption) (provided : List InteractionOption) : Arguments :=
  provided.foldl (fun args o => args.insert o.name o.value)
    (declared.foldl (fun args o => args.insert o.name none) {})

def contains (args : Arguments) (name : String) : Bool := (args.entries.lookup name).isSome

def get? (args : Arguments) (name : String) : Option Json := (args.entries.lookup name).join

def string? (args : Arguments) (name : String) : Option String := (args.get? name).bind Json.asString?

def integer? (args : Arguments) (name : String) : Option Int := (args.get? name).bind Json.asInt64?

def number? (args : Arguments) (name : String) : Option Float := (args.get? name).bind Json.asFloat?

def bool? (args : Arguments) (name : String) : Option Bool := (args.get? name).bind Json.asBool?

def snowflake? (args : Arguments) (name : String) : Option Snowflake :=
  (args.get? name).bind Snowflake.ofJson?

def read (α : Type) [JsonForm α] (args : Arguments) (name : String) : Except BotError (Option α) :=
  match args.get? name with
  | none => .ok none
  | some j => (decoded (ofJson? j)).map some

def toJson (args : Arguments) : Json :=
  .obj (args.entries.map fun e => (e.1, match e.2 with
    | none => .null
    | some v => .arr [v]))

def size (args : Arguments) : Nat := args.entries.length

def isEmpty (args : Arguments) : Bool := args.entries.isEmpty

end Arguments

end DiscordBot
