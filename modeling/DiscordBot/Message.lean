import DiscordBot.Component

/-! Messages that a bot sends, and the lists of messages that its handlers produce. -/

namespace DiscordBot

open Json (fields? required optional defaulted field optionalField record)

structure Message where
  content : Option String := none
  tts : Option Bool := none
  embeds : List Json := []
  flags : Option UInt64 := none
  components : List ActionRow := []
  allowedMentions : Option Json := none
  deriving Inhabited

namespace Message

def fieldNames : List String :=
  ["content", "tts", "embeds", "flags", "components", "allowed_mentions"]

def listField {α : Type} [JsonForm α] (name : String) (xs : List α) : String × Option Json :=
  optionalField name (if xs.isEmpty then none else some xs)

def toJson (m : Message) : Json := record [
  optionalField "content" m.content,
  optionalField "tts" m.tts,
  listField "embeds" m.embeds,
  optionalField "flags" m.flags,
  listField "components" m.components,
  optionalField "allowed_mentions" m.allowedMentions]

def ofJson? (j : Json) : Option Message := do
  let fs ← fields? fieldNames j
  some {
    content := ← optional fs "content"
    tts := ← optional fs "tts"
    embeds := ← defaulted fs "embeds" []
    flags := ← optional fs "flags"
    components := ← defaulted fs "components" []
    allowedMentions := ← optional fs "allowed_mentions" }

instance : JsonForm Message := ⟨toJson, ofJson?⟩

def ofText (text : String) : Message := { content := some text }

def ephemeralFlag : UInt64 := 64

def ephemeral (m : Message) : Message := { m with flags := some (m.flags.getD 0 ||| ephemeralFlag) }

def isEphemeral (m : Message) : Bool := m.flags.getD 0 &&& ephemeralFlag != 0

def embed (m : Message) (e : Json) : Message := { m with embeds := m.embeds ++ [e] }

def row (m : Message) (r : ActionRow) : Message := { m with components := m.components ++ [r] }

end Message

structure Response where
  messages : List Message := []
  deriving Inhabited

namespace Response

def none : Response := {}

def ofMessage (m : Message) : Response := ⟨[m]⟩

def ofMessage? (m : Option Message) : Response := ⟨m.toList⟩

def ofText (text : String) : Response := ofMessage (.ofText text)

def isEmpty (r : Response) : Bool := r.messages.isEmpty

def followedBy (r : Response) (m : Message) : Response := ⟨r.messages ++ [m]⟩

end Response

end DiscordBot
