/-! TOML values, and the rules by which keys and headers put them into tables. -/

namespace DiscordBot.Toml

/-- How a table came to be: in braces, by a header of its own, on the way to the table of a header, or on
the way to a dotted key. -/
inductive TableForm where
  | inline
  | header
  | path
  | dotted
  deriving DecidableEq, Repr

inductive Value where
  | string (s : String)
  | integer (n : Int)
  | float (x : Float)
  | boolean (b : Bool)
  | dateTime (text : String)
  | array (items : List Value)
  | table (form : TableForm) (members : List (String × Value))
  | tables (latestFirst : List (List (String × Value)))
  deriving Inhabited

abbrev Members := List (String × Value)

namespace Members

def replace (key : String) (v : Value) (ms : Members) : Members :=
  ms.map fun m => if m.1 == key then (key, v) else m

def add (key : String) (v : Value) (ms : Members) : Option Members :=
  match ms.lookup key with
  | none => some (ms ++ [(key, v)])
  | some _ => none

/-- Puts a value under a dotted key. The tables on its way are new or not closed yet, and the last of
them holds dotted keys only. -/
def addDotted (v : Value) : List String → Members → Option Members
  | [], _ => none
  | [key], ms => ms.add key v
  | key :: keys, ms =>
    match ms.lookup key with
    | none => (addDotted v keys []).map fun sub => ms ++ [(key, .table .dotted sub)]
    | some (.table form sub) =>
      if form == .dotted || (form == .path && 1 < keys.length) then
        (addDotted v keys sub).map fun sub => ms.replace key (.table form sub)
      else none
    | some _ => none

def update (f : Members → Option Members) : List String → Members → Option Members
  -- Of the tables that double brackets opened, the latest is on the way.
  | [], ms => f ms
  | key :: keys, ms =>
    match ms.lookup key with
    | none => (update f keys []).map fun sub => ms ++ [(key, .table .path sub)]
    | some (.table .inline _) => none
    | some (.table form sub) => (update f keys sub).map fun sub => ms.replace key (.table form sub)
    | some (.tables (sub :: older)) =>
      (update f keys sub).map fun sub => ms.replace key (.tables (sub :: older))
    | some _ => none

def openTable (key : String) (ms : Members) : Option Members :=
  match ms.lookup key with
  | none => some (ms ++ [(key, .table .header [])])
  | some (.table .path sub) => some (ms.replace key (.table .header sub))
  | some _ => none

def openElement (key : String) (ms : Members) : Option Members :=
  match ms.lookup key with
  | none => some (ms ++ [(key, .tables [[]])])
  | some (.tables older) => some (ms.replace key (.tables ([] :: older)))
  | some _ => none

def atHeader (f : String → Members → Option Members) (keys : List String) (ms : Members) :
    Option Members :=
  match keys.getLast? with
  | none => none
  | some key => update (f key) keys.dropLast ms

end Members

end DiscordBot.Toml
