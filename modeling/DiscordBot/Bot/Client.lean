import DiscordBot.Command.Sync
import DiscordBot.Dispatcher
import DiscordBot.Gateway.Run
import DiscordBot.Http.Client
import DiscordBot.Ready

/-! A bot: its access to the service, its commands and components, and what it does for the events of its
gateway. -/

namespace DiscordBot

open Rest (Program call)

namespace Bot

structure Settings where
  http : Http.Settings
  intents : UInt32 := 0
  gatewayUrl : Option String := none
  reconnectDelay : Time.Duration := .ofWholeSeconds 5
  commands : Registry := {}
  components : ComponentRegistry := {}
  errorHook : Option ErrorHook := none

end Bot

structure Bot where
  settings : Bot.Settings
  http : Http.Client

namespace Bot

def ofSettings (s : Settings) : Except BotError Bot :=
  (Http.Client.ofSettings s.http).map fun c => ⟨s, c⟩

def summary (b : Bot) : String :=
  "Client \x7b intents: " ++ toString b.settings.intents.toNat
    ++ ", api_version: " ++ toString b.settings.http.version.toNat
    ++ ", commands: " ++ toString b.settings.commands.size
    ++ ", components: " ++ toString b.settings.components.size ++ ", .. \x7d"

def fetchUser (known : Option User) : Program User := do
  match known with
  | some u => pure u
  | none =>
    Rest.present (← call ⟨.get, "users/@me", none⟩) (.notFound "users/@me returned no body")

def commandSync (b : Bot) (user : User) : CommandSync := ⟨user.id, b.settings.commands, false⟩

def syncCommands (b : Bot) (known : Option User) (guilds : List Snowflake) :
    Program Unit := do
  let user ← fetchUser known
  ((b.commandSync user).start guilds).1

def storedCommands (b : Bot) (known : Option User) (guilds : List Snowflake) :
    Program (List AppCommand) := do
  let user ← fetchUser known
  (b.commandSync user).fetch guilds

def connect (b : Bot) (known : Option User) : Program (User × String) := do
  let user ← fetchUser known
  match b.settings.gatewayUrl with
  | some url => pure (user, url)
  | none => do
    let url ← Rest.gatewayUrl
    pure (user, url)

def gatewaySettings (b : Bot) (url : String) : Gateway.Settings where
  url := url
  token := b.settings.http.token
  intents := b.settings.intents
  version := b.settings.http.version
  reconnectDelay := b.settings.reconnectDelay

def dispatcher (b : Bot) : Dispatcher :=
  ⟨b.settings.commands, b.settings.components, b.settings.errorHook⟩

inductive Notice where
  | ready (r : Ready)
  | interaction (i : Interaction)
  | event (name : String) (payload : Json)

structure Session where
  bot : Bot
  sync : CommandSync

def hookName (event : String) : String := "on_" ++ RateLimit.lowerName event

/-- Acts on an event before its hooks are told. A failure to bring the commands in line is no failure of
the event. -/
def Session.handle {σ : Type} (s : Session) (f : Frame) : Session × Handling σ (Option Notice) :=
  match f.event with
  | none => (s, pure none)
  | some "READY" =>
    match Ready.ofJson? f.data with
    | none => (s, .lift (.error .malformedJson))
    | some r =>
      let (p, sync) := s.sync.start r.guildIds
      ({ s with sync := sync }, do
        .request (Rest.recover p fun _ => pure ())
        pure (some (.ready r)))
  | some "INTERACTION_CREATE" => (s, do
      let i ← s.bot.dispatcher.dispatch f.data
      pure (some (.interaction i)))
  | some name => (s, pure (some (.event (hookName name) f.data)))

end Bot

end DiscordBot
