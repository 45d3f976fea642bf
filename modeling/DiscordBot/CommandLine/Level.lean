/-! Words on a command line: flags, options with a value, and plain words, at one level of commands. -/

namespace DiscordBot.CommandLine

inductive UsageError where
  | help
  | nothingAsked
  | missingCommand
  | unknownCommand
  | unknownArgument
  | invalidValue
  | unwantedValue
  | repeated
  | missingArgument
  deriving DecidableEq, Repr

structure Switch where
  long : String
  short : Option Char := none
  deriving DecidableEq, Repr

structure OptionSpec where
  switch : Switch
  collects : Bool := false
  allowsEmpty : Bool := false

structure Level where
  flags : List Switch := []
  options : List OptionSpec := []
  words : Nat := 0
  commands : List String := []

structure Found where
  flags : List String := []
  values : List (String × String) := []
  words : List String := []
  command : Option (String × List String) := none
  deriving DecidableEq, Repr, Inhabited

namespace Level

def isHelp (w : String) : Bool := w == "help"

def addFlag (f : Found) (name : String) : Except UsageError Found :=
  if f.flags.contains name then .error .repeated else .ok { f with flags := f.flags ++ [name] }

def addValue (f : Found) (o : OptionSpec) (value : String) : Except UsageError Found :=
  if value.isEmpty && !o.allowsEmpty then .error .invalidValue
  else if !o.collects && (f.values.lookup o.switch.long).isSome then .error .repeated
  else .ok { f with values := f.values ++ [(o.switch.long, value)] }

def longFlag? (l : Level) (name : String) : Option Switch := l.flags.find? fun s => s.long == name

def longOption? (l : Level) (name : String) : Option OptionSpec :=
  l.options.find? fun o => o.switch.long == name

inductive Reading where
  | done (f : Found)
  | needsValue (f : Found) (o : OptionSpec)

def readLong (l : Level) (f : Found) (cs : List Char) : Except UsageError Reading :=
  let name := String.ofList (cs.takeWhile (· != '='))
  let value := match cs.dropWhile (· != '=') with
    | [] => none
    | _ :: v => some (String.ofList v)
  if isHelp name then .error (if value.isSome then .unwantedValue else .help)
  else
    match l.longFlag? name, l.longOption? name, value with
    | some s, _, none => (addFlag f s.long).map .done
    | some _, _, some _ => .error .unwantedValue
    | none, some o, some v => (addValue f o v).map .done
    | none, some o, none => .ok (.needsValue f o)
    | none, none, _ => .error .unknownArgument

def readShort (l : Level) : Found → List Char → Except UsageError Reading
  -- The letter of an option ends the word with its value.
  | f, [] => .ok (.done f)
  | f, c :: cs =>
    if c == 'h' then .error .help
    else
      match l.flags.find? (fun s => s.short == some c),
          l.options.find? (fun o => o.switch.short == some c) with
      | some s, _ => do readShort l (← addFlag f s.long) cs
      | none, some o =>
        match cs with
        | [] => .ok (.needsValue f o)
        | '=' :: v => (addValue f o (String.ofList v)).map .done
        | v => (addValue f o (String.ofList v)).map .done
      | none, none => .error .unknownArgument

def isPlain (w : String) : Bool :=
  match w.toList with
  | '-' :: _ :: _ => false
  | _ => true

def helpFor (l : Level) : List String → UsageError
  | [] => .help
  | w :: ws => if isHelp w then .help
    else if l.commands.contains w then (if ws.isEmpty then .help else .unknownCommand)
    else .unknownCommand

def read (l : Level) : Bool → Found → List String → Except UsageError Found
  -- Behind a double hyphen all words are plain.
  | _, f, [] => .ok f
  | plain, f, w :: ws =>
    if plain || isPlain w then
      if !plain && !l.commands.isEmpty then
        if l.commands.contains w then .ok { f with command := some (w, ws) }
        else if isHelp w then .error (l.helpFor ws)
        else .error .unknownCommand
      else if f.words.length < l.words then read l plain { f with words := f.words ++ [w] } ws
      else .error (if l.commands.isEmpty || l.commands.contains w then .unknownArgument
        else .unknownCommand)
    else if w == "--" then read l true f ws
    else do
      let reading ← match w.toList with
        | '-' :: '-' :: cs => l.readLong f cs
        | cs => l.readShort f (cs.drop 1)
      match reading, ws with
      | .done f, ws => read l false f ws
      | .needsValue f o, v :: ws =>
        if isPlain v then read l false (← addValue f o v) ws else .error .invalidValue
      | .needsValue _ _, [] => .error .invalidValue

end Level

end DiscordBot.CommandLine
