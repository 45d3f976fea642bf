import DiscordBot.Command.Declaration
import DiscordBot.Command.NameRule
import DiscordBot.Text.Basic

/-! Declared commands that obey the rules, and the errors of those that do not. -/

namespace DiscordBot

structure RegisteredCommand where
  app : AppCommand
  handler : CommandHandler
  cooldown : UInt32
  cooldownScale : Float
  cooldownScope : ThrottleScope
  group : Option Group
  subgroup : Option Subgroup

structure CommandKey where
  name : String
  guildId : Option Snowflake
  kind : CommandType
  group : Option String
  subgroup : Option String
  deriving DecidableEq, Repr

namespace RegisteredCommand

def key (c : RegisteredCommand) : CommandKey where
  name := c.app.name
  guildId := c.app.guildId
  kind := c.app.kind
  group := c.group.map (·.name)
  subgroup := c.subgroup.map (·.name)

def qualifiedName (c : RegisteredCommand) : String :=
  Text.joinWith " " ((c.group.map (·.name)).toList ++ (c.subgroup.map (·.name)).toList ++ [c.app.name])

def toJson (c : RegisteredCommand) : Json := .obj [
  ("app", c.app.toJson),
  ("cooldown", DiscordBot.toJson c.cooldown),
  ("cooldown_scale", .str (Decimal.plainText c.cooldownScale)),
  ("cooldown_scope", DiscordBot.toJson c.cooldownScope),
  ("group", Json.orNull (c.group.map Group.toJson)),
  ("sub_group", Json.orNull (c.subgroup.map Subgroup.toJson)),
  ("qualified_name", .str c.qualifiedName)]

end RegisteredCommand

def greatestDescription : Nat := 100

def greatestOptions : Nat := 25

def greatestChoices : Nat := 25

def require (condition : Bool) (e : BotError) : Except BotError Unit :=
  if condition then .ok () else .error e

namespace CommandOption

def checkChoices (o : CommandOption) : Except BotError Unit :=
  match o.choices with
  | none => .ok ()
  | some choices => do
    require o.kind.acceptsChoices
      (.invalidArgument "Choice type is only allowed for str, int, and float")
    require (choices.length ≤ greatestChoices)
      (.invalidArgument ("Argument `" ++ o.name ++ "` has " ++ toString choices.length
        ++ " choices, the maximum is " ++ toString greatestChoices))
    require (choices.all fun c => c.value.fits o.kind)
      (.invalidArgument "Choice value must match the command type")

def checkArgument (o : CommandOption) (command : String) : Except BotError Unit := do
  require (NameRule.typed.allows o.name)
    (.invalidArgument ("Argument `" ++ o.name ++ "` of `" ++ command
      ++ "` doesn't follow the name requirements: " ++ NameRule.typed.pattern))
  require (o.description.length ≤ greatestDescription)
    (.descriptionTooLong ("Argument `" ++ o.name ++ "` of `" ++ command
      ++ "` has a description over " ++ toString greatestDescription ++ " characters"))
  o.checkChoices
  require (o.channelTypes.isNone || o.kind == .channel)
    (.invalidArgument "ChannelTypes are only available for Channels")
  require (o.minValue.isNone || o.kind.isNumeric)
    (.invalidArgument "MinValue is only available for int and float")
  require (o.maxValue.isNone || o.kind.isNumeric)
    (.invalidArgument "MaxValue is only available for int and float")

end CommandOption

namespace Declaration

def nameRule (d : Declaration) : NameRule := if d.kind == .chatInput then .typed else .menu

def checkName (d : Declaration) : Except BotError Unit :=
  require (d.nameRule.allows d.name)
    (.invalidCommandName ("Command `" ++ d.name ++ "` doesn't follow the name requirements. "
      ++ "Ensure to match the following regex: " ++ d.nameRule.pattern))

def requireHandler (d : Declaration) : Except BotError CommandHandler :=
  match d.handler with
  | some h => .ok h
  | none => .error (.handler ("Command `" ++ d.name ++ "` has no handler"))

def readGuild (d : Declaration) : Except BotError (Option Snowflake) :=
  match d.guild with
  | none => .ok none
  | some text =>
    match Snowflake.parse? text with
    | some id => .ok (some id)
    | none => .error (.invalidCommandGuild ("Command `" ++ d.name ++ "` its `guild` parameter `"
        ++ text ++ "` is not a valid guild id."))

def checkDescription (d : Declaration) : Except BotError Unit :=
  require ((d.description.getD "").length ≤ greatestDescription)
    (.descriptionTooLong ("Command `" ++ d.name ++ "` its description exceeds the "
      ++ toString greatestDescription ++ " character limit."))

def checkCount (d : Declaration) : Except BotError Unit :=
  require (d.arguments.length ≤ greatestOptions)
    (.tooManyArguments ("Command `" ++ d.name ++ "` can only have " ++ toString greatestOptions
      ++ " arguments yet " ++ toString d.arguments.length ++ " were provided!"))

def checkMenu (d : Declaration) : Except BotError Unit := do
  require (d.kind == .chatInput || d.arguments.isEmpty)
    (.invalidArgument ("Command `" ++ d.name
      ++ "` is a context menu command and takes no arguments"))
  require (d.kind == .chatInput || d.parent.isNone)
    (.invalidCommandName ("Only chat input commands can be grouped, `" ++ d.name ++ "` is not one"))

def checkArguments (command : String) : List Argument → Except BotError Unit
  | [] => .ok ()
  | a :: as => do
    a.option.checkArgument command
    checkArguments command as

def checkGroupName (name : String) : Except BotError Unit :=
  require (NameRule.typed.allows name)
    (.invalidCommandName ("Group `" ++ name ++ "` doesn't follow the name requirements: "
      ++ NameRule.typed.pattern))

def checkParent (d : Declaration) : Except BotError Unit :=
  match d.parent with
  | none => .ok ()
  | some (.group g) => checkGroupName g.name
  | some (.subgroup s) => do
    checkGroupName s.parent.name
    checkGroupName s.name

def command (d : Declaration) (handler : CommandHandler) (guildId : Option Snowflake) :
    RegisteredCommand where
  app := { AppCommand.named d.kind d.name (d.description.getD "") with
    guildId := guildId
    defaultPermission := some d.enabledByDefault
    options := if d.arguments.isEmpty then none else some (d.arguments.map (·.option)) }
  handler := handler
  cooldown := d.cooldown
  cooldownScale := d.cooldownScale
  cooldownScope := d.cooldownScope
  group := d.parent.map (·.outer)
  subgroup := d.parent.bind (·.inner?)

def check (d : Declaration) : Except BotError RegisteredCommand := do
  -- The first rule that is broken tells the error.
  d.checkName
  let handler ← d.requireHandler
  let guildId ← d.readGuild
  d.checkDescription
  d.checkCount
  d.checkMenu
  checkArguments d.name d.arguments
  d.checkParent
  .ok (d.command handler guildId)

end Declaration

end DiscordBot
