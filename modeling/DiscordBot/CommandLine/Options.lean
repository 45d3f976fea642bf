import DiscordBot.CommandLine.Level
import DiscordBot.Json.Form

/-! The command line of the program that runs a bot. -/

namespace DiscordBot.CommandLine

inductive Task where
  | run
  | sync (guilds : List String)
  | commands (guilds : List String)
  | channel (id : String)
  | invite (code : String) (withCounts : Bool)
  deriving DecidableEq, Repr

def Task.toJson : Task → Json
  | run => .obj [("name", .str "run")]
  | sync guilds => .obj [("name", .str "sync"), ("guilds", DiscordBot.toJson guilds)]
  | commands guilds => .obj [("name", .str "commands"), ("guilds", DiscordBot.toJson guilds)]
  | channel id => .obj [("name", .str "channel"), ("id", .str id)]
  | invite code withCounts =>
    .obj [("name", .str "invite"), ("code", .str code), ("with_counts", .bool withCounts)]

structure Options where
  config : String
  verbose : Bool
  jsonLogs : Bool
  task : Task
  deriving DecidableEq, Repr

def Options.toJson (o : Options) : Json := .obj [
  ("config", .str o.config), ("verbose", .bool o.verbose), ("json_logs", .bool o.jsonLogs),
  ("command", o.task.toJson)]

def defaultConfig : String := "pincer.toml"

def topLevel : Level where
  flags := [⟨"verbose", some 'v'⟩, ⟨"json-logs", none⟩]
  options := [{ switch := ⟨"config", some 'c'⟩ }]
  commands := ["run", "sync", "commands", "channel", "invite"]

def guildsLevel : Level where
  options := [{ switch := ⟨"guilds", none⟩, collects := true, allowsEmpty := true }]

def channelLevel : Level where
  words := 1

def inviteLevel : Level where
  flags := [⟨"with-counts", none⟩]
  words := 1

def guildsOf (f : Found) : List String :=
  f.values.flatMap fun v => (v.2.toList.splitOn ',').map String.ofList

def oneWord (f : Found) : Except UsageError String :=
  match f.words with
  | w :: _ => .ok w
  | [] => .error .missingArgument

def readTask (command : String) (words : List String) : Except UsageError Task :=
  match command with
  | "run" => (Level.read {} false {} words).map fun _ => .run
  | "sync" => (guildsLevel.read false {} words).map fun f => .sync (guildsOf f)
  | "commands" => (guildsLevel.read false {} words).map fun f => .commands (guildsOf f)
  | "channel" => do return .channel (← oneWord (← channelLevel.read false {} words))
  | "invite" => do
    let f ← inviteLevel.read false {} words
    return .invite (← oneWord f) (f.flags.contains "with-counts")
  | _ => .error .unknownCommand

def Options.ofWords (words : List String) : Except UsageError Options :=
  if words.isEmpty then .error .nothingAsked
  else do
    let f ← topLevel.read false {} words
    match f.command with
    | none => .error .missingCommand
    | some (command, rest) =>
      let task ← readTask command rest
      return {
        config := (f.values.lookup "config").getD defaultConfig
        verbose := f.flags.contains "verbose"
        jsonLogs := f.flags.contains "json-logs"
        task := task }

end DiscordBot.CommandLine
