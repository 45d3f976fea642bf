import DiscordBot.Error
import DiscordBot.Gateway.Frame
import DiscordBot.Text.Basic
import DiscordBot.Time.Clock

/-! What a gateway keeps from one connection to the next, and the frames it makes from that. -/

namespace DiscordBot.Gateway

structure Settings where
  url : String
  token : String
  intents : UInt32 := 0
  version : UInt8 := 10
  reconnectDelay : Time.Duration := .ofWholeSeconds 5

/-- The session that can be taken up again, and the latest sequence number in it. -/
structure Memory where
  sessionId : Option String := none
  resumeUrl : Option String := none
  sequence : Option UInt64 := none
  deriving DecidableEq, Repr, Inhabited

namespace Settings

def address (g : Settings) (m : Memory) (resume : Bool) : String :=
  let base := match m.resumeUrl, resume with
    | some url, true => url
    | _, _ => g.url
  Text.dropTrailing '/' base ++ "/?v=" ++ toString g.version.toNat ++ "&encoding=json"

def identify (g : Settings) : Frame :=
  .ofOp .identify (.obj [
    ("token", .str g.token),
    ("intents", toJson g.intents),
    ("properties", .obj [("os", .str "linux"), ("browser", .str "pincer"), ("device", .str "pincer")])])

def resumption (g : Settings) (sessionId : String) (sequence : Option UInt64) : Frame :=
  .ofOp .resume (.obj [
    ("token", .str g.token), ("session_id", .str sessionId), Json.nullableField "seq" sequence])

def handshake (g : Settings) (m : Memory) (resume : Bool) : Frame :=
  match m.sessionId, resume with
  | some id, true => g.resumption id m.sequence
  | _, _ => g.identify

end Settings

def heartbeat (sequence : Option UInt64) : Frame :=
  .ofOp .heartbeat (Json.orNull (sequence.map toJson))

def isFatalClose (code : Nat) : Bool := code == 4004 || (4010 ≤ code && code ≤ 4014)

def defaultHeartbeatMillis : Nat := 41250

def heartbeatMillis (greeting : Json) : Nat :=
  match greeting.nat? "heartbeat_interval" with
  | some (n + 1) => n + 1
  | _ => defaultHeartbeatMillis

namespace Memory

def note (m : Memory) (f : Frame) : Memory :=
  let m := { m with sequence := f.sequence.or m.sequence }
  if f.event == some "READY" then
    { m with sessionId := f.data.string? "session_id", resumeUrl := f.data.string? "resume_gateway_url" }
  else m

end Memory

end DiscordBot.Gateway
