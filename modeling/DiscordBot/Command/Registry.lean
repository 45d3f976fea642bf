import DiscordBot.Command.Registered

/-! The commands of a bot in the order of their registration. -/

namespace DiscordBot

structure Registry where
  commands : List RegisteredCommand := []
  deriving Inhabited

namespace Registry

def register (r : Registry) (d : Declaration) : Except BotError RegisteredCommand × Registry :=
  match d.check with
  | .error e => (.error e, r)
  | .ok c =>
    if r.commands.any fun o => o.key == c.key then
      (.error (.alreadyRegistered ("Command `" ++ c.qualifiedName ++ "` has already been registered.")), r)
    else (.ok c, ⟨r.commands ++ [c]⟩)

def lookup (r : Registry) (key : CommandKey) : Option RegisteredCommand :=
  r.commands.find? fun c => c.key == key

/-- The command with a key. Inside a guild the global command of that name stands in for one that the
guild does not have. -/
def find (r : Registry) (key : CommandKey) : Option RegisteredCommand :=
  match r.lookup key with
  | some c => some c
  | none =>
    match key.guildId with
    | some _ => r.lookup { key with guildId := none }
    | none => none

def size (r : Registry) : Nat := r.commands.length

def isEmpty (r : Registry) : Bool := r.commands.isEmpty

end Registry

end DiscordBot
