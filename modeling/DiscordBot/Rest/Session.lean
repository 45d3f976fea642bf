import DiscordBot.Error
import DiscordBot.Json.Member
import DiscordBot.Time.Clock

/-! Calls to the REST interface, and programs of such calls. Those of a batch are in flight together. -/

namespace DiscordBot.Rest

inductive Method where
  | get
  | post
  | patch
  | put
  | delete
  deriving DecidableEq, Repr

def Method.text : Method → String
  | get => "GET"
  | post => "POST"
  | patch => "PATCH"
  | put => "PUT"
  | delete => "DELETE"

structure Call where
  method : Method
  route : String
  data : Option Json := none

def Call.toJson (c : Call) : Json := .obj ([
  ("method", .str c.method.text), ("route", .str c.route)] ++ (c.data.map fun d => ("data", d)).toList)

abbrev Outcome := Result BotError (Option Json)

abbrev Server (σ : Type) := σ → Call → Outcome × σ

/-- Calls are asked for a batch at a time. What cannot be asked for is in the batch as its error. -/
inductive Program (α : Type) where
  | ended (result : Except BotError α)
  | asks (batch : List (Except BotError Call))
      (next : Except BotError (List (Option Json)) → Program α)

namespace Program

variable {α β : Type}

def bind (p : Program α) (f : α → Program β) : Program β :=
  match p with
  | ended (.ok a) => f a
  | ended (.error e) => ended (.error e)
  | asks batch next => asks batch fun answers => (next answers).bind f

instance : Monad Program where
  pure a := ended (.ok a)
  bind := bind

end Program

def lift {α : Type} (x : Except BotError α) : Program α := .ended x

def askAll (batch : List (Except BotError Call)) : Program (List (Option Json)) := .asks batch .ended

def call (c : Call) : Program (Option Json) := do
  let bodies ← askAll [.ok c]
  pure (bodies.headD none)

def recover {α : Type} (p : Program α) (handle : BotError → Program α) : Program α :=
  match p with
  | .ended (.ok a) => .ended (.ok a)
  | .ended (.error e) => handle e
  | .asks batch next => .asks batch fun answers => recover (next answers) handle

structure Session (σ : Type) where
  state : σ
  calls : List Call := []

def answers {σ : Type} (server : Server σ) :
    List (Except BotError Call) → Session σ → Result BotError (List (Option Json)) × Session σ
  | [], s => (.ok [], s)
  | .error e :: _, s => (.error e, s)
  | .ok c :: batch, s =>
    let (outcome, state) := server s.state c
    let s : Session σ := ⟨state, s.calls ++ [c]⟩
    match outcome with
    | .ok body =>
      let (bodies, s) := answers server batch s
      (bodies.map (body :: ·), s)
    | .error e => (.error e, s)
    | .overflow => (.overflow, s)

def Program.run {σ α : Type} (p : Program α) (server : Server σ) (s : Session σ) :
    Result BotError α × Session σ :=
  match p with
  | ended result => (.ofExcept result, s)
  | asks batch next =>
    match answers server batch s with
    | (.ok bodies, s) => (next (.ok bodies)).run server s
    | (.error e, s) => (next (.error e)).run server s
    | (.overflow, s) => (.overflow, s)

end DiscordBot.Rest
