import DiscordBot.CommandLine.Help
import DiscordBot.CommandLine.Perform

/-! The program that runs a bot from a configuration file. It has no way to the network of its own, so
its requests fail as they do where no server can be reached. -/

open DiscordBot CommandLine

def environmentFor (text : String) : IO Config.Environment := do
  let names := (Config.environmentPieces none text.toList).filterMap fun
    | .reference name => some (String.ofList name)
    | .text _ => none
  let values ← names.filterMapM fun name => do
    if name.contains '=' || name.contains '\x00' then return none
    return (← IO.getEnv name).map fun value => (name, value)
  return fun name => values.lookup name

def readConfig (path : String) : IO (Except BotError BotConfig) := do
  match ← (IO.FS.readFile path).toBaseIO with
  | .ok text => return BotConfig.ofText (← environmentFor text) text
  | .error _ => return .error .fileAccess

def main (args : List String) : IO UInt32 := do
  match Options.ofWords args with
  | .error e =>
    if e == .help then IO.println e.message else IO.eprintln e.message
    return e.exitCode.toUInt32
  | .ok o =>
    let report := Report.ofOutcome (perform unreachable () (← readConfig o.config) o.task)
    report.out.forM IO.println
    report.err.forM IO.eprintln
    return report.code.toUInt32
