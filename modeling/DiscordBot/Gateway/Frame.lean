import DiscordBot.Json.Form
import DiscordBot.Json.Printer
import DiscordBot.Json.Tree

/-! The frames of a gateway connection. -/

namespace DiscordBot

open Json (Tree Fields fields? required optional defaulted)

inductive OpCode where
  | dispatch
  | heartbeat
  | identify
  | presenceUpdate
  | voiceStateUpdate
  | resume
  | reconnect
  | requestGuildMembers
  | invalidSession
  | hello
  | heartbeatAck
  | unknown (n : UInt8)
  deriving DecidableEq, Repr, Inhabited

namespace OpCode

def code : OpCode → UInt8
  | dispatch => 0
  | heartbeat => 1
  | identify => 2
  | presenceUpdate => 3
  | voiceStateUpdate => 4
  | resume => 6
  | reconnect => 7
  | requestGuildMembers => 8
  | invalidSession => 9
  | hello => 10
  | heartbeatAck => 11
  | unknown n => n

def ofCode (n : UInt8) : OpCode :=
  match n with
  | 0 => dispatch
  | 1 => heartbeat
  | 2 => identify
  | 3 => presenceUpdate
  | 4 => voiceStateUpdate
  | 6 => resume
  | 7 => reconnect
  | 8 => requestGuildMembers
  | 9 => invalidSession
  | 10 => hello
  | 11 => heartbeatAck
  | n => unknown n

def label : OpCode → String
  | dispatch => "Dispatch"
  | heartbeat => "Heartbeat"
  | identify => "Identify"
  | presenceUpdate => "PresenceUpdate"
  | voiceStateUpdate => "VoiceStateUpdate"
  | resume => "Resume"
  | reconnect => "Reconnect"
  | requestGuildMembers => "RequestGuildMembers"
  | invalidSession => "InvalidSession"
  | hello => "Hello"
  | heartbeatAck => "HeartbeatAck"
  | unknown n => unknownLabel n

instance : Coded OpCode := ⟨code, ofCode, label⟩

end OpCode

structure Frame where
  op : OpCode
  data : Json
  sequence : Option UInt64
  event : Option String
  deriving Inhabited

namespace Frame

def ofOp (op : OpCode) (data : Json) : Frame := ⟨op, data, none, none⟩

def fieldNames : List String := ["op", "d", "s", "t"]

def ofFields? (fs : Fields) : Option Frame := do
  some {
    op := ← required fs "op"
    data := ← defaulted fs "d" .null
    sequence := ← optional fs "s"
    event := ← optional fs "t" }

/-- The values of the fields of a frame. A field that is there twice fails; members that are no fields
are passed over, whatever they hold. -/
def fieldValues? (depth : Nat) : List (List Json.StringUnit × Tree) → Option Fields
  | [] => some []
  | (k, v) :: ms => do
    let k ← Json.text? k
    let rest ← fieldValues? depth ms
    if fieldNames.contains k then
      let j ← v.value? depth
      if (rest.lookup k).isSome then none else some ((k, j) :: rest)
    else some rest

def itemValues? (depth : Nat) (names : List String) (items : List Tree) : Option Fields := do
  if names.length < items.length then none
  let js ← Json.itemValues? depth items
  some (names.zip js)

def ofText? (text : String) : Option Frame := do
  let depth := Json.greatestDepth - 1
  match ← Tree.parse? text with
  | .object ms => (fieldValues? depth ms).bind ofFields?
  | .array items => (itemValues? depth fieldNames items).bind ofFields?
  | _ => none

def toJson (f : Frame) : Json := .obj [
  ("op", DiscordBot.toJson f.op), ("d", f.data), Json.nullableField "s" f.sequence,
  Json.nullableField "t" f.event]

def text (f : Frame) : String :=
  -- A frame that is sent has no sequence number and no event.
  (Json.record [Json.field "op" f.op, Json.field "d" f.data]).render

end Frame

end DiscordBot
