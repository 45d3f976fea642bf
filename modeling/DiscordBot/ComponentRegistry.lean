import DiscordBot.Interaction

/-! The handlers of buttons and select menus by custom id. -/

namespace DiscordBot

abbrev ComponentHandler := MessageContext → List String → Except BotError Response

structure ComponentRegistry where
  handlers : List (String × ComponentHandler) := []
  deriving Inhabited

namespace ComponentRegistry

def get? (r : ComponentRegistry) (customId : String) : Option ComponentHandler :=
  r.handlers.lookup customId

def component (r : ComponentRegistry) (customId : String) (handler : ComponentHandler) :
    Except BotError Unit × ComponentRegistry :=
  if customId.isEmpty || 100 < customId.length then
    (.error (.invalidComponent ("custom_id `" ++ customId ++ "` must be 1 to 100 characters")), r)
  else if (r.get? customId).isSome then
    (.error (.invalidComponent ("a handler for `" ++ customId ++ "` is already registered")), r)
  else (.ok (), ⟨r.handlers ++ [(customId, handler)]⟩)

def handOut {α : Type} (r : ComponentRegistry) (customId : String) (handler : ComponentHandler)
    (valid : Except BotError Unit) (made : α) : Except BotError α × ComponentRegistry :=
  match valid with
  | .error e => (.error e, r)
  | .ok () =>
    let (result, r) := r.component customId handler
    (result.map fun _ => made, r)

def button (r : ComponentRegistry) (customId : String) (style : ButtonStyle) (label : String)
    (handler : ComponentHandler) : Except BotError Button × ComponentRegistry :=
  if style == .link then
    (.error (.invalidComponent "link buttons open a url and take no handler, use Button::link"), r)
  else
    let b : Button := { Button.labelled style label with customId := some customId }
    r.handOut customId handler b.validate b

def selectMenu (r : ComponentRegistry) (customId : String) (options : List SelectOption)
    (handler : ComponentHandler) : Except BotError SelectMenu × ComponentRegistry :=
  let m := SelectMenu.ofOptions customId options
  r.handOut customId handler m.validate m

def size (r : ComponentRegistry) : Nat := r.handlers.length

def isEmpty (r : ComponentRegistry) : Bool := r.handlers.isEmpty

end ComponentRegistry

end DiscordBot
