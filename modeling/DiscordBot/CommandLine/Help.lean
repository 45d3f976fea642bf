import DiscordBot.CommandLine.Options

/-! What the program says about its command line. -/

namespace DiscordBot.CommandLine

def helpText : String :=
  "Run a Discord bot whose commands are declared in TOML

Usage: pincer [OPTIONS] <COMMAND>

Commands:
  run       Connect to the gateway and answer the configured commands
  sync      Push the configured commands to Discord and exit
  commands  List the commands Discord stores for the bot
  channel   Show a channel by id
  invite    Look up an invite by code
  help      Print this message or the help of the given subcommand(s)

Options:
  -c, --config <CONFIG>  [default: pincer.toml]
  -v, --verbose          Enable verbose output
      --json-logs        Emit JSON log lines
  -h, --help             Print help"

def UsageError.message : UsageError → String
  | help | nothingAsked => helpText
  | missingCommand => "error: a subcommand is required but one was not provided"
  | unknownCommand => "error: unrecognized subcommand"
  | unknownArgument => "error: unexpected argument found"
  | invalidValue => "error: a value is required for an option but none was supplied"
  | unwantedValue => "error: unexpected value found for a flag"
  | repeated => "error: an argument cannot be used multiple times"
  | missingArgument => "error: a required argument was not provided"

def UsageError.exitCode : UsageError → Nat
  | help => 0
  | _ => 2

end DiscordBot.CommandLine
