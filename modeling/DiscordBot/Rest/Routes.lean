import DiscordBot.Interaction
import DiscordBot.Invite
import DiscordBot.Rest.Session

/-! The calls that belong to channels, invites and interactions, and the one for the gateway's address. -/

namespace DiscordBot

open Rest (Program call lift)

def Rest.present {α : Type} [JsonForm α] (x : Option Json) (missing : BotError) : Program α :=
  match x with
  | none => lift (.error missing)
  | some j => lift (decoded (ofJson? j))

namespace Channel

def route (id : Snowflake) : String := "channels/" ++ id.text

def missing (id : Snowflake) : BotError := .notFound ("Empty response for channel " ++ id.text)

def fetch (id : Snowflake) : Program Channel := do
  Rest.present (← call ⟨.get, route id, none⟩) (missing id)

def edit (c : Channel) (changes : ChannelEdit) : Program Channel := do
  Rest.present (← call ⟨.patch, route c.id, some changes.toJson⟩) (missing c.id)

end Channel

def Invite.fetch (code : String) (withCounts withExpiration : Bool) :
    Program Invite := do
  let parameters := Json.record [
    Json.field "with_counts" withCounts, Json.field "with_expiration" withExpiration]
  Rest.present (← call ⟨.get, "invites/" ++ code, some parameters⟩)
    (.notFound ("Empty response for invite " ++ code))

namespace Interaction

def callbackRoute (i : Interaction) : String :=
  "interactions/" ++ i.id.text ++ "/" ++ i.token ++ "/callback"

def followupRoute (i : Interaction) : String :=
  "webhooks/" ++ i.applicationId.text ++ "/" ++ i.token

def callbackCall (i : Interaction) (kind : CallbackType) (message : Option Message) : Rest.Call :=
  ⟨.post, i.callbackRoute,
    some (Json.record [Json.field "type" kind, Json.optionalField "data" message])⟩

def followupCall (i : Interaction) (message : Message) : Rest.Call :=
  ⟨.post, i.followupRoute, some message.toJson⟩

def respond (i : Interaction) (kind : CallbackType) (message : Option Message) :
    Program Unit := do
  let _ ← call (i.callbackCall kind message)

def reply (i : Interaction) (message : Message) : Program Unit :=
  i.respond .channelMessageWithSource (some message)

def followup (i : Interaction) (message : Message) : Program (Option Json) :=
  call (i.followupCall message)

def followupAll (i : Interaction) : List Message → Program Unit
  | [] => pure ()
  | m :: ms => do
    let _ ← i.followup m
    i.followupAll ms

def send (i : Interaction) (r : Response) : Program Unit :=
  match r.messages with
  | [] => pure ()
  | m :: ms => do
    i.reply m
    i.followupAll ms

end Interaction

def Rest.gatewayUrl : Program String := do
  let body ← call ⟨.get, "gateway/bot", none⟩
  match body.bind fun j => j.string? "url" with
  | some url => pure url
  | none => lift (.error (.gateway "gateway/bot response has no url"))

end DiscordBot
