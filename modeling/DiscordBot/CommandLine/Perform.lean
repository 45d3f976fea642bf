import DiscordBot.Bot.Client
import DiscordBot.CommandLine.Options
import DiscordBot.Config.Commands
import DiscordBot.Config.Validation

/-! What the program does for its command line: the lines it writes and how it ends. -/

namespace DiscordBot.CommandLine

open Rest (Program)

inductive Failure where
  | bot (e : BotError)
  | badId (what text cause : String)

structure Report where
  code : Nat
  out : List String := []
  err : List String := []
  deriving DecidableEq, Repr

def exitCode : Severity → Nat
  | .low => 0
  | .high => 1
  | .medium => 2
  | .critical => 3

def Report.ofOutcome : Result Failure (List String) → Report
  -- What the runtime itself writes of an overflow is left out.
  | .ok lines => { code := 0, out := lines }
  | .error (.bot e) => {
    code := exitCode e.severity
    err := ["❌ " ++ e.friendlyMessage, "💡 建議: " ++ e.suggestion] }
  | .error (.badId what text cause) => {
    code := 1
    err := ["Error: invalid " ++ what ++ " id `" ++ text ++ "`", "", "Caused by:", "    " ++ cause] }
  | .overflow => { code := 101 }

def botOf (c : BotConfig) : Except BotError Bot := do
  c.validate
  let (result, registry) := c.register {}
  let _ ← result
  let http : Http.Settings := { token := c.bot.token }
  Bot.ofSettings {
    http := { http with
      version := c.apiVersion
      base := c.bot.apiBase.getD http.base
      maxRetries := c.maxRetries.toNat }
    intents := c.intents
    gatewayUrl := c.bot.gatewayUrl
    commands := registry }

def readId (what text : String) : Except Failure Snowflake :=
  match Snowflake.parse text with
  | .ok s => .ok s
  | .error e => .error (.badId what text e.message)

def scopeText (c : AppCommand) : String :=
  match c.guildId with
  | some g => "guild " ++ g.text
  | none => "global"

def program (b : Bot) : Task → Except Failure (Program (List String))
  | .run => .ok do
    let _ ← b.connect none
    pure []
  | .sync guilds => do
    let guilds ← guilds.mapM (readId "guild")
    return do
      b.syncCommands none guilds
      pure ["✅ Synced " ++ toString b.settings.commands.size ++ " commands"]
  | .commands guilds => do
    let guilds ← guilds.mapM (readId "guild")
    return do
      let stored ← b.storedCommands none guilds
      pure (stored.map fun c => c.name ++ " (" ++ scopeText c ++ ")")
  | .channel id => do
    let id ← readId "channel" id
    return do
      let c ← Channel.fetch id
      pure [c.displayName ++ " [" ++ c.kind.kind.label ++ "]"]
  | .invite code withCounts => .ok do
    let i ← Invite.fetch code withCounts false
    pure [i.link ++ " -> " ++ i.link]

def perform {σ : Type} (server : Rest.Server σ) (s : σ) (config : Except BotError BotConfig)
    (task : Task) : Result Failure (List String) :=
  match config.bind botOf with
  | .error e => .error (.bot e)
  | .ok b => do
    let p ← .ofExcept (program b task)
    (p.run server ⟨s, []⟩).1.mapError .bot

def unreachable : Rest.Server Unit := fun s _ => (.error .transport, s)

end DiscordBot.CommandLine
