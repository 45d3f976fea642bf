import DiscordBot.Json.Token

/-! The tree of a JSON text before its strings and numbers have values: repeated keys, numbers beyond
the floats and lone surrogates are still there. -/

namespace DiscordBot.Json

inductive Tree where
  | null
  | bool (b : Bool)
  | number (text : NumberText)
  | string (units : List StringUnit)
  | array (items : List Tree)
  | object (members : List (List StringUnit × Tree))
  deriving Inhabited

inductive OpenContainer where
  | array (items : List Tree)
  | object (members : List (List StringUnit × Tree)) (key : List StringUnit)

inductive Expectation where
  | value
  | valueOrClose
  | key (members : List (List StringUnit × Tree))
  | keyOrClose
  | colon (members : List (List StringUnit × Tree)) (key : List StringUnit)
  | done (value : Tree)

structure Progress where
  containers : List OpenContainer
  next : Expectation

def Progress.step (p : Progress) (t : Token) : Option Progress :=
  match p.next, t with
  | .value, .openObject | .valueOrClose, .openObject => some ⟨p.containers, .keyOrClose⟩
  | .value, .openArray | .valueOrClose, .openArray =>
    some ⟨.array [] :: p.containers, .valueOrClose⟩
  | .value, .string s | .valueOrClose, .string s => some ⟨p.containers, .done (.string s)⟩
  | .value, .number n | .valueOrClose, .number n => some ⟨p.containers, .done (.number n)⟩
  | .value, .bool b | .valueOrClose, .bool b => some ⟨p.containers, .done (.bool b)⟩
  | .value, .null | .valueOrClose, .null => some ⟨p.containers, .done .null⟩
  | .valueOrClose, .closeArray =>
    match p.containers with
    | .array items :: rest => some ⟨rest, .done (.array items.reverse)⟩
    | _ => none
  | .keyOrClose, .closeObject => some ⟨p.containers, .done (.object [])⟩
  | .keyOrClose, .string k => some ⟨p.containers, .colon [] k⟩
  | .key ms, .string k => some ⟨p.containers, .colon ms k⟩
  | .colon ms k, .colon => some ⟨.object ms k :: p.containers, .value⟩
  | .done v, .comma =>
    match p.containers with
    | .array items :: rest => some ⟨.array (v :: items) :: rest, .value⟩
    | .object ms k :: rest => some ⟨rest, .key ((k, v) :: ms)⟩
    | [] => none
  | .done v, .closeArray =>
    match p.containers with
    | .array items :: rest => some ⟨rest, .done (.array (v :: items).reverse)⟩
    | _ => none
  | .done v, .closeObject =>
    match p.containers with
    | .object ms k :: rest => some ⟨rest, .done (.object ((k, v) :: ms).reverse)⟩
    | _ => none
  | _, _ => none

def Tree.parse? (s : String) : Option Tree := do
  let ts ← tokens? s
  let p ← ts.foldlM Progress.step ⟨[], .value⟩
  match p with
  | ⟨[], .done v⟩ => some v
  | _ => none

def text? (units : List StringUnit) : Option String := (joinUnits units).map String.ofList

mutual

def Tree.value? (depth : Nat) : Tree → Option Json
  | .null => some .null
  | .bool b => some (.bool b)
  | .number t => t.value?
  | .string us => (text? us).map .str
  | .array items =>
    match depth with
    | 0 => none
    | d + 1 => (itemValues? d items).map .arr
  | .object ms =>
    match depth with
    | 0 => none
    | d + 1 => (memberValues? d ms).map fun ms =>
        .obj (ms.foldl (fun acc m => insertMember m.1 m.2 acc) [])

def itemValues? (depth : Nat) : List Tree → Option (List Json)
  | [] => some []
  | s :: ss => do
    let j ← s.value? depth
    let js ← itemValues? depth ss
    some (j :: js)

def memberValues? (depth : Nat) : List (List StringUnit × Tree) → Option (List (String × Json))
  | [] => some []
  | (k, s) :: ms => do
    let k ← text? k
    let j ← s.value? depth
    let rest ← memberValues? depth ms
    some ((k, j) :: rest)

end

def greatestDepth : Nat := 127

def parse? (s : String) : Option Json := (Tree.parse? s).bind (Tree.value? greatestDepth)

end DiscordBot.Json
