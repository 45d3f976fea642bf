import DiscordBot.User

/-! The first event of a session. -/

namespace DiscordBot

open Json (fields? required optional defaulted field optionalField record)

structure Ready where
  version : UInt8
  user : User
  guilds : List PartialGuild
  sessionId : String
  resumeGatewayUrl : Option String
  application : Option PartialApplication
  deriving DecidableEq, Inhabited

namespace Ready

def fieldNames : List String :=
  ["v", "user", "guilds", "session_id", "resume_gateway_url", "application"]

def toJson (r : Ready) : Json := record [
  field "v" r.version,
  field "user" r.user,
  field "guilds" r.guilds,
  field "session_id" r.sessionId,
  optionalField "resume_gateway_url" r.resumeGatewayUrl,
  optionalField "application" r.application]

def ofJson? (j : Json) : Option Ready := do
  let fs ← fields? fieldNames j
  some {
    version := ← required fs "v"
    user := ← required fs "user"
    guilds := ← defaulted fs "guilds" []
    sessionId := ← required fs "session_id"
    resumeGatewayUrl := ← optional fs "resume_gateway_url"
    application := ← optional fs "application" }

instance : JsonForm Ready := ⟨toJson, ofJson?⟩

def guildIds (r : Ready) : List Snowflake := r.guilds.map (·.id)

end Ready

end DiscordBot
