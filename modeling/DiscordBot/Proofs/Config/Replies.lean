import DiscordBot.Proofs.Config.Registration
import DiscordBot.Proofs.Dispatch.Arguments
import DiscordBot.Proofs.Dispatch.Handling
import DiscordBot.Proofs.Reply.Rendering

/-! What the commands of a configuration reply, read off their sections. -/

namespace DiscordBot

open Arguments (Entry lastOf?)
open Rest (Call Server Session)
open Dispatcher (argumentEntries keyOf)

def mentioned (word : Option String) (id : String) : String :=
  match word with
  | some "user" => "<@" ++ id ++ ">"
  | some "channel" => "<#" ++ id ++ ">"
  | some "role" => "<@&" ++ id ++ ">"
  | _ => id

namespace CommandSection

variable {s : CommandSection} {c : RegisteredCommand}

def kindOf? (s : CommandSection) (name : String) : Option String :=
  (s.options.map fun o => (o.name, o.kind)).reverse.lookup name

def filling (s : CommandSection) (author : User) (entries : List Entry) (name : String) : String :=
  match lastOf? entries name with
  | some (some value) => mentioned (s.kindOf? name) (plainText value)
  | some none => ""
  | none => if name = "author" then author.mention else "\x7b" ++ name ++ "\x7d"

def entries (s : CommandSection) (i : Interaction) (path : CommandPath) : List Entry :=
  argumentEntries (s.options.map (·.name)) ((CommandType.ofWord? (s.kind.getD "chat_input")).getD .chatInput) i
    path

lemma valueText_eq (word : Option String) (value : Json) :
    Reply.Static.valueText (word.bind OptionType.ofWord?) value = mentioned word (plainText value) := by
  rw [Reply.Static.valueText_kind]
  unfold mentioned
  cases word with
  | none => rfl
  | some w =>
    rw [Option.bind_some]
    fun_cases OptionType.ofWord? w
    case case9 => simp_all
    all_goals rfl

lemma lookup_of_forall₂ {α β : Type} {f : α → Option β} {xs : List (String × α)} {ys : List (String × β)}
    (h : List.Forall₂ (fun x y => y.1 = x.1 ∧ f x.2 = some y.2) xs ys) (name : String) :
    ys.lookup name = (xs.lookup name).bind f := by
  induction h with
  | nil => rfl
  | @cons x y xs ys hxy _ ih =>
    obtain ⟨hname, hvalue⟩ := hxy
    rw [List.lookup_cons, List.lookup_cons, hname, ih]
    cases name == x.1 <;> simp [hvalue]

namespace Describes

variable (h : s.Describes c)
include h

lemma names : (c.app.options.getD []).map (·.name) = s.options.map (·.name) := by
  have hnames : List.Forall₂ Eq (s.options.map (·.name)) ((c.app.options.getD []).map (·.name)) := by
    rw [List.forall₂_map_left_iff, List.forall₂_map_right_iff]
    exact h.arguments.imp fun o a ha => ha.name.symm
  rw [List.forall₂_eq_eq_eq] at hnames
  exact hnames.symm

lemma kindOf? (name : String) :
    (s.replyWith (c.app.options.getD [])).kindOf? name = (s.kindOf? name).bind OptionType.ofWord? := by
  refine lookup_of_forall₂ (List.rel_reverse ?_) name
  unfold replyWith
  rw [List.forall₂_map_left_iff, List.forall₂_map_right_iff]
  exact h.arguments.imp fun o a ha => ⟨ha.name, OptionType.ofWord?_eq_some.mpr ha.kind⟩

lemma arguments_eq (i : Interaction) (path : CommandPath) :
    Dispatcher.arguments c i path = .ofEntries (s.entries i path) := by
  rw [Dispatcher.arguments_eq, h.names, entries, CommandType.ofWord?_eq_some.mpr h.kind, Option.getD_some]

lemma placeholderText (ctx : MessageContext) (i : Interaction) (path : CommandPath) :
    (s.replyWith (c.app.options.getD [])).placeholderText ctx (Dispatcher.arguments c i path) =
      s.filling ctx.author (s.entries i path) := by
  funext name
  have hlookup := Arguments.lookup_ofEntries (s.entries i path) name
  rw [← h.arguments_eq] at hlookup
  unfold filling
  rcases hlast : lastOf? (s.entries i path) name with _ | _ | value
  · rw [Reply.Static.placeholderText_of_missing (hlookup.trans hlast)]
    rfl
  · rw [Reply.Static.placeholderText_of_no_value (hlookup.trans hlast)]
  · rw [Reply.Static.placeholderText_of_value (hlookup.trans hlast), h.kindOf?, valueText_eq]

end Describes

end CommandSection

def Interaction.answerCall (i : Interaction) (text : String) (ephemeral : Bool) : Call where
  method := .post
  route := "interactions/" ++ i.id.text ++ "/" ++ i.token ++ "/callback"
  data := some (.obj [
    ("type", .int 4),
    ("data", .obj (("content", .str text) :: if ephemeral then [("flags", .int 64)] else []))])

/-- An interaction that resolves to a command and that the throttler lets through. -/
structure Dispatcher.Runs (d : Dispatcher) (t : Cooldown.Throttler) (now : Time.Instant) (payload : Json)
    (i : Interaction) (path : CommandPath) (author : User) (c : RegisteredCommand) : Prop where
  reads : Interaction.ofJson? payload = some i
  used : i.kind = .applicationCommand
  leads : i.commandPath? = some path
  resolves : d.commands.find (keyOf i path) = some c
  sent : i.author? = some author
  passes : (t.handle now ⟨author, i.member, i.guildId, i.channelId, c.qualifiedName, i.id⟩ c).1 = .ok ()

lemma Reply.Static.toJson_message (s : Reply.Static) (ctx : MessageContext) (args : Arguments) :
    (s.message ctx args).toJson =
      .obj (("content", .str (s.render ctx args)) :: if s.ephemeral then [("flags", .int 64)] else []) := by
  have hflag : Message.ephemeralFlag.toNat = 64 := rfl
  cases hs : s.ephemeral <;> simp [message, hs, Message.toJson, Message.ofText, Message.ephemeral,
    Message.listField, Json.record, Json.optionalField, toJson, hflag]

lemma Interaction.postings_message (i : Interaction) (s : Reply.Static) (ctx : MessageContext)
    (args : Arguments) : i.postings [s.message ctx args] =
      [i.answerCall (s.render ctx args) s.ephemeral] := by
  rw [answerCall, ← s.toJson_message ctx args]
  rfl

namespace BotConfig

variable {c : BotConfig} {r : Registry} {n : Nat}

/-- Whoever calls a command of a configuration, and is let through, is answered in one call. The text of the
answer is the only one that the template of the command's reply is filled to. -/
theorem replies_posted (hregister : c.register {} = (.ok n, r)) :
    List.Forall₂ (fun (s : CommandSection) command =>
      ∀ {σ : Type} {d : Dispatcher} (desk : Desk σ) {now payload i path author}, d.commands = r →
        d.Runs desk.throttler now payload i path author command →
        ∃ text : String,
          (∀ out, Reply.Filled (s.filling author (s.entries i path)) s.reply.toList out ↔ out = text.toList) ∧
          ∀ server : Server σ, ∃ ctx args, ((d.dispatch payload).run server now desk).2.steps = desk.steps ++
            [.throttled ctx command, .command ctx command args,
              .called (i.answerCall text (s.ephemeral.getD false))])
      c.commands r.commands := by
  obtain ⟨added, hadded, hdescribes⟩ := register_eq_ok hregister
  rw [List.nil_append] at hadded
  rw [hadded]
  refine hdescribes.imp fun s command h => ?_
  rintro σ d desk now payload i path author rfl ⟨hreads, hused, hleads, hresolves, hsent, hpasses⟩
  let ctx : MessageContext := ⟨author, i.member, i.guildId, i.channelId, command.qualifiedName, i.id⟩
  let args := Dispatcher.arguments command i path
  let reply := s.replyWith (command.app.options.getD [])
  let target : Dispatcher.Target := .command command args
  refine ⟨reply.render ctx args, fun out => ?_, fun server => ⟨ctx, args, ?_⟩⟩
  · rw [← h.placeholderText ctx, ← String.toList_ofList (l := out), String.toList_inj]
    exact reply.filled_render ctx args
  · have hctx : MessageContext.ofInteraction i target.name = .ok ctx := by
      rw [MessageContext.ofInteraction, hsent]
      rfl
    have haims : d.Aims i target := .command hused hleads hresolves
    have hverdict : (target.throttle desk.throttler now ctx).1 = .ok () := hpasses
    have hanswer : target.outcome desk.throttler now ctx = .ok (.ofMessage (reply.message ctx args)) := by
      rw [Dispatcher.Target.outcome, hverdict]
      exact congrArg Result.ofExcept (congrFun₂ h.handler ctx args)
    have hcalled : (target.called desk now ctx).steps =
        desk.steps ++ [.throttled ctx command, .command ctx command args] := by
      rw [Dispatcher.Target.called, hverdict]
      rfl
    have hrun := Dispatcher.dispatch_eq server now desk hreads haims hctx
    rw [hanswer] at hrun
    rw [hrun]
    have hposts := i.posts_send (.ofMessage (reply.message ctx args)) server now (target.called desk now ctx)
    rw [Dispatcher.settled, hposts.steps_ofMessage, i.postings_message, hcalled, List.append_assoc]
    rfl

def hug : CommandSection where
  name := "hug"
  kind := none
  description := none
  guild := none
  cooldown := none
  cooldownScale := none
  cooldownScope := none
  ephemeral := some true
  reply := "\x7bauthor\x7d hugs \x7btarget\x7d\x7bwhy\x7d, \x7b\x7bnobody\x7d\x7d."
  group := none
  subgroup := none
  options :=
    let target : OptionSection := {
      name := "target", kind := "user", description := none, required := none, choices := [],
      minValue := none, maxValue := none }
    [target, { target with name := "why", kind := "string", required := some false }]

def friendly : BotConfig where
  bot := { token := "token", apiVersion := none, maxRetries := none, intents := none, apiBase := none,
           gatewayUrl := none }
  commands := [hug]

def hugCall : Json := .obj [
  ("id", .str "100"), ("application_id", .str "200"), ("type", .int 2), ("token", .str "tok"),
  ("data", .obj [
    ("name", .str "hug"),
    ("options", .arr [.obj [("name", .str "target"), ("type", .int 6), ("value", .str "42")]])]),
  ("user", .obj [("id", .str "9"), ("username", .str "ada")])]

lemma friendly_register : ∃ command, command.key = ⟨"hug", none, .chatInput, none, none⟩ ∧
    command.cooldown = 0 ∧ friendly.register {} = (.ok 1, ⟨[command]⟩) :=
  ⟨_, rfl, rfl, rfl⟩

lemma hugCall_read :
    (Interaction.ofJson? hugCall).map (fun i => (i.kind, i.callbackRoute,
        i.commandPath?.bind fun path => i.author?.map fun author => (keyOf i path,
          (Reply.pieces hug.reply.toList).flatMap (Reply.Piece.filled (hug.filling author (hug.entries i path)))))) =
      some (.applicationCommand, "interactions/100/tok/callback",
        some (⟨"hug", none, .chatInput, none, none⟩, "<@9> hugs <@42>, \x7b\x7bnobody\x7d\x7d.".toList)) := by
  decide +kernel

theorem hugCall_replied :
    let d : Dispatcher := ⟨(friendly.register {}).2, {}, none⟩
    let accepting : Server Unit := fun s _ => (.ok none, s)
    friendly.register {} = (.ok 1, d.commands) ∧
      ∃ i ctx command args, Interaction.ofJson? hugCall = some i ∧
        i.callbackRoute = "interactions/100/tok/callback" ∧
        ((d.dispatch hugCall).run accepting 0 ⟨{}, (), []⟩).2.steps =
          [.throttled ctx command, .command ctx command args,
            .called (i.answerCall "<@9> hugs <@42>, {{nobody}}." true)] := by
  intro d accepting
  obtain ⟨command, hkey, hcooldown, hregister⟩ := friendly_register
  have hcommands : d.commands = ⟨[command]⟩ := congrArg Prod.snd hregister
  obtain ⟨i, hi, hread⟩ := Option.map_eq_some_iff.mp hugCall_read
  simp only [Prod.mk.injEq, Option.bind_eq_some_iff, Option.map_eq_some_iff] at hread
  obtain ⟨hused, hroute, path, hleads, author, hsent, hcall, hfilled⟩ := hread
  have hfind : d.commands.find (keyOf i path) = some command := by
    rw [hcall, hcommands]
    simp [Registry.find, Registry.lookup, hkey]
  have hruns : d.Runs {} 0 hugCall i path author command :=
    ⟨hi, hused, hleads, hfind, hsent, by simp [Cooldown.Throttler.handle, hcooldown]⟩
  obtain ⟨text, htext, hcalls⟩ :=
    (List.forall₂_cons.mp (replies_posted hregister)).1 ⟨{}, (), []⟩ hcommands hruns
  have hsaid := (htext _).mp (Reply.filled_iff.mpr rfl)
  rw [hfilled, String.toList_inj] at hsaid
  obtain ⟨ctx, args, hsteps⟩ := hcalls accepting
  refine ⟨hregister.trans (by rw [hcommands]), i, ctx, command, args, hi, hroute, ?_⟩
  rw [hsteps, ← hsaid]
  rfl

end BotConfig

end DiscordBot
