import DiscordBot.Command.Published
import DiscordBot.Rest.Routes

/-! Bringing the commands that the service stores for an application in line with those of a registry. -/

namespace DiscordBot

open Rest (Call Program askAll call lift)

structure CommandSync where
  applicationId : Snowflake
  registry : Registry
  started : Bool := false

namespace CommandSync

def listRoute (s : CommandSync) (guildId : Option Snowflake) : String :=
  let base := "applications/" ++ s.applicationId.text
  match guildId with
  | some g => base ++ "/guilds/" ++ g.text ++ "/commands"
  | none => base ++ "/commands"

def commandRoute (s : CommandSync) (c : AppCommand) : Except BotError String :=
  match c.id with
  | some id => .ok (s.listRoute c.guildId ++ "/" ++ id.text)
  | none => .error (.notFound ("command `" ++ c.name ++ "` has no id"))

def readList (body : Option Json) : Except BotError (List AppCommand) :=
  match body with
  | none => .ok []
  | some j => decoded (ofJson? j)

def scopes (guilds : List Snowflake) : List (Option Snowflake) := none :: guilds.map some

def listCall (s : CommandSync) (guildId : Option Snowflake) : Call := ⟨.get, s.listRoute guildId, none⟩

def readLists : List (Option Json) → Except BotError (List AppCommand)
  | [] => .ok []
  | b :: bs => do
    let cs ← readList b
    let rest ← readLists bs
    .ok (cs ++ rest)

/-- The stored commands of all scopes. No list is read before all have arrived. -/
def fetch (s : CommandSync) (guilds : List Snowflake) : Program (List AppCommand) := do
  let bodies ← askAll ((scopes guilds).map fun g => .ok (s.listCall g))
  lift (readLists bodies)

def removal (s : CommandSync) (c : AppCommand) : Except BotError Call :=
  (s.commandRoute c).map fun route => ⟨.delete, route, none⟩

def removeAll (s : CommandSync) (cs : List AppCommand) : Program Unit := do
  let _ ← askAll (cs.map s.removal)

def remove (s : CommandSync) (c : AppCommand) : Program Unit := s.removeAll [c]

def addCall (s : CommandSync) (c : AppCommand) : Call :=
  ⟨.post, s.listRoute c.guildId, some c.payload⟩

def add (s : CommandSync) (c : AppCommand) : Program Unit := do
  let _ ← call (s.addCall c)

def addTogether (s : CommandSync) (cs : List AppCommand) : Program Unit := do
  let _ ← askAll (cs.map fun c => .ok (s.addCall c))

def addInTurn (s : CommandSync) : List AppCommand → Program Unit
  | [] => pure ()
  | c :: cs => do
    s.add c
    s.addInTurn cs

def update (s : CommandSync) (c : AppCommand) (changes : Json) :
    Program (Option AppCommand) := do
  let route ← lift (s.commandRoute c)
  match ← call ⟨.patch, route, some changes.removeNull⟩ with
  | none => pure none
  | some j =>
    let c : AppCommand ← lift (decoded (ofJson? j))
    pure (some c)

def isStale (published : List AppCommand) (stored : AppCommand) : Bool :=
  -- The kind is not looked at.
  !published.any fun c => c.name == stored.name && c.guildId == stored.guildId

def isMissing (kept : List AppCommand) (c : AppCommand) : Bool :=
  !kept.any fun stored => c.agrees stored

def listStored (s : CommandSync) (guilds : List Snowflake) : Program (List AppCommand) :=
  Rest.recover (s.fetch guilds) fun e =>
    match e with
    | .forbidden _ => pure []
    | e => lift (.error e)

def bringInLine (s : CommandSync) (guilds : List Snowflake) : Program Unit := do
  let published := s.registry.published
  let stored ← s.listStored guilds
  s.removeAll (stored.filter (isStale published))
  let kept := stored.filter fun c => !isStale published c
  s.addInTurn (published.filter (isMissing kept))

def start (s : CommandSync) (guilds : List Snowflake) : Program Unit × CommandSync :=
  (if s.started then pure () else s.bringInLine guilds, { s with started := true })

end CommandSync

end DiscordBot
