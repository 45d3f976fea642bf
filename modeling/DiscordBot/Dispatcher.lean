import DiscordBot.Command.Registry
import DiscordBot.ComponentRegistry
import DiscordBot.Cooldown.Throttler
import DiscordBot.Rest.Routes

/-! Running the handlers of commands and components for the interactions that come in. -/

namespace DiscordBot

open Time (Instant)

abbrev ErrorHook := MessageContext → BotError → Except BotError Response

inductive HandlingStep where
  | throttled (ctx : MessageContext) (command : RegisteredCommand)
  | command (ctx : MessageContext) (command : RegisteredCommand) (args : Arguments)
  | component (ctx : MessageContext) (values : List String)
  | hook (ctx : MessageContext) (error : BotError)
  | called (call : Rest.Call)

structure Desk (σ : Type) where
  throttler : Cooldown.Throttler
  server : σ
  steps : List HandlingStep := []

/-- A part of handling an interaction, which has a server to call and an instant at which it is done. -/
structure Handling (σ α : Type) where
  run : Rest.Server σ → Instant → Desk σ → Result BotError α × Desk σ

namespace Handling

variable {σ α β : Type}

def bind (h : Handling σ α) (f : α → Handling σ β) : Handling σ β where
  run server now desk :=
    match h.run server now desk with
    | (.ok a, desk) => (f a).run server now desk
    | (.error e, desk) => (.error e, desk)
    | (.overflow, desk) => (.overflow, desk)

instance : Monad (Handling σ) where
  pure a := ⟨fun _ _ desk => (.ok a, desk)⟩
  bind := bind

def lift (x : Except BotError α) : Handling σ α := ⟨fun _ _ desk => (.ofExcept x, desk)⟩

def recover (h : Handling σ α) (handle : BotError → Handling σ α) : Handling σ α where
  run server now desk :=
    match h.run server now desk with
    | (.error e, desk) => (handle e).run server now desk
    | ended => ended

def throttle (ctx : MessageContext) (c : RegisteredCommand) : Handling σ Unit where
  run _ now desk :=
    let (verdict, throttler) := desk.throttler.handle now ctx c
    (verdict, { desk with throttler := throttler, steps := desk.steps ++ [.throttled ctx c] })

def consult (step : HandlingStep) (answer : Except BotError α) : Handling σ α where
  run _ _ desk := (.ofExcept answer, { desk with steps := desk.steps ++ [step] })

def runCommand (ctx : MessageContext) (c : RegisteredCommand) (args : Arguments) :
    Handling σ Response := consult (.command ctx c args) (c.handler ctx args)

def runComponent (ctx : MessageContext) (handler : ComponentHandler) (values : List String) :
    Handling σ Response := consult (.component ctx values) (handler ctx values)

def runHook (ctx : MessageContext) (hook : ErrorHook) (e : BotError) : Handling σ Response :=
  consult (.hook ctx e) (hook ctx e)

def request (p : Rest.Program α) : Handling σ α where
  run server _ desk :=
    let (result, s) := p.run server ⟨desk.server, []⟩
    (result, { desk with server := s.state, steps := desk.steps ++ s.calls.map .called })

end Handling

structure Dispatcher where
  commands : Registry
  components : ComponentRegistry
  errorHook : Option ErrorHook

namespace Dispatcher

def summary (d : Dispatcher) : String :=
  "InteractionMiddleware \x7b commands: " ++ toString d.commands.size
    ++ ", components: " ++ toString d.components.size
    ++ ", error_handler: " ++ toString d.errorHook.isSome ++ ", .. \x7d"

def resolved (data : InteractionData) (part id : String) : Option Json :=
  (data.resolved.bind fun r => r.get? part).bind fun m => m.get? id

def arguments (c : RegisteredCommand) (i : Interaction) (path : CommandPath) : Arguments :=
  let args := Arguments.ofOptions (c.app.options.getD []) path.options
  match i.data with
  | none => args
  | some data =>
    match data.targetId with
    | none => args
    | some target =>
      let id := target.text
      let args := args.insert "target_id" (some (.str id))
      match c.app.kind with
      | .user => (args.insert "user" (resolved data "users" id)).insert "member"
          (resolved data "members" id)
      | .message => args.insert "message" (resolved data "messages" id)
      | _ => args

def onError {σ : Type} (d : Dispatcher) (ctx : MessageContext) (e : BotError) : Handling σ Response :=
  match d.errorHook with
  | some hook => .runHook ctx hook e
  | none => .lift (.error e)

def keyOf (i : Interaction) (path : CommandPath) : CommandKey where
  name := path.name
  guildId := i.guildId
  kind := (i.data.bind (·.kind)).getD .chatInput
  group := path.group
  subgroup := path.subgroup

def handleCommand {σ : Type} (d : Dispatcher) (i : Interaction) : Handling σ Unit :=
  match i.commandPath? with
  | none => pure ()
  | some path =>
    match d.commands.find (keyOf i path) with
    | none => pure ()
    | some c => do
      let ctx ← .lift (MessageContext.ofInteraction i c.qualifiedName)
      let answer : Handling σ Response := do
        .throttle ctx c
        .runCommand ctx c (arguments c i path)
      let r ← answer.recover (d.onError ctx)
      .request (i.send r)

def handleComponent {σ : Type} (d : Dispatcher) (i : Interaction) : Handling σ Unit :=
  match i.data.bind fun data => data.customId.map fun id => (id, data.values.getD []) with
  | none => pure ()
  | some (id, values) =>
    match d.components.get? id with
    | none => pure ()
    | some handler => do
      let ctx ← .lift (MessageContext.ofInteraction i id)
      let r ← (Handling.runComponent ctx handler values).recover (d.onError ctx)
      .request (i.send r)

def handle {σ : Type} (d : Dispatcher) (i : Interaction) : Handling σ Unit :=
  match i.kind with
  | .applicationCommand => d.handleCommand i
  | .messageComponent => d.handleComponent i
  | _ => pure ()

def dispatch {σ : Type} (d : Dispatcher) (payload : Json) : Handling σ Interaction :=
  match Interaction.ofJson? payload with
  | none => .lift (.error .malformedJson)
  | some i => do
    d.handle i
    pure i

end Dispatcher

end DiscordBot
