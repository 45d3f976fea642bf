import DiscordBot.Command.Declaration
import DiscordBot.Json.Printer
import DiscordBot.Reply.Template

/-! Replies with a fixed template, in which placeholders stand for arguments and for the author. -/

namespace DiscordBot.Reply

structure Static where
  template : String
  ephemeral : Bool := false
  kinds : List (String × OptionType) := []

namespace Static

def kindOf? (s : Static) (name : String) : Option OptionType := s.kinds.reverse.lookup name

def valueText (kind : Option OptionType) (value : Json) : String :=
  let text := match value with
    | .str s => s
    | j => j.render
  match kind with
  | some .user => "<@" ++ text ++ ">"
  | some .channel => "<#" ++ text ++ ">"
  | some .role => "<@&" ++ text ++ ">"
  | _ => text

def placeholderText (s : Static) (ctx : MessageContext) (args : Arguments) (name : String) : String :=
  -- An argument of that name goes before the author.
  if args.contains name then
    match args.get? name with
    | none => ""
    | some value => valueText (s.kindOf? name) value
  else if name == "author" then ctx.author.mention
  else "\x7b" ++ name ++ "\x7d"

def pieceText (s : Static) (ctx : MessageContext) (args : Arguments) : Piece → String
  | .text c => String.singleton c
  | .placeholder name => s.placeholderText ctx args name

def render (s : Static) (ctx : MessageContext) (args : Arguments) : String :=
  String.join ((pieces s.template.toList).map (s.pieceText ctx args))

def message (s : Static) (ctx : MessageContext) (args : Arguments) : Message :=
  let m := Message.ofText (s.render ctx args)
  if s.ephemeral then m.ephemeral else m

def handler (s : Static) : CommandHandler := fun ctx args => .ok (.ofMessage (s.message ctx args))

end Static

end DiscordBot.Reply
