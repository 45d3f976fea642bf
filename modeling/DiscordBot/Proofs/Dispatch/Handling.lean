import DiscordBot.Proofs.Dispatch.Posting

/-! What is done for one interaction: whether the throttler, a handler and the error hook are called, in
which order, and what is posted after that. -/

namespace DiscordBot

open Rest (Server)

namespace Dispatcher

inductive Target where
  | command (c : RegisteredCommand) (args : Arguments)
  | component (customId : String) (handler : ComponentHandler) (values : List String)

/-- What an interaction is for, if it is registered. -/
inductive Aims (d : Dispatcher) (i : Interaction) : Target → Prop
  | command {path : CommandPath} {c : RegisteredCommand} : i.kind = .applicationCommand →
      i.commandPath? = some path → d.commands.find (keyOf i path) = some c →
      Aims d i (.command c (arguments c i path))
  | component {data : InteractionData} {id : String} {handler : ComponentHandler} :
      i.kind = .messageComponent → i.data = some data → data.customId = some id →
      d.components.get? id = some handler → Aims d i (.component id handler (data.values.getD []))

namespace Target

def name : Target → String
  | command c _ => c.qualifiedName
  | component customId _ _ => customId

def throttle (t : Cooldown.Throttler) (now : Time.Instant) (ctx : MessageContext) :
    Target → Result BotError Unit × Cooldown.Throttler
  | command c _ => t.handle now ctx c
  | component _ _ _ => (.ok (), t)

def consultation (ctx : MessageContext) : Target → List HandlingStep
  | command c _ => [.throttled ctx c]
  | component _ _ _ => []

def call (ctx : MessageContext) : Target → HandlingStep
  | command c args => .command ctx c args
  | component _ _ values => .component ctx values

def answer (ctx : MessageContext) : Target → Except BotError Response
  | command c args => c.handler ctx args
  | component _ handler values => handler ctx values

end Target

variable {σ : Type} {d : Dispatcher} {server : Server σ} {now : Time.Instant} {desk desk' : Desk σ}
  {i : Interaction} {target : Target} {ctx : MessageContext} {e : BotError} {r : Response} {payload : Json}

lemma handle_of_no_aim (hno : ∀ target, ¬d.Aims i target) : d.handle i = (pure () : Handling σ Unit) := by
  unfold handle
  cases hk : i.kind with
  | applicationCommand =>
    simp only [handleCommand]
    cases hpath : i.commandPath? with
    | none => rfl
    | some path =>
      dsimp only
      cases hfind : d.commands.find (keyOf i path) with
      | none => rfl
      | some c => exact absurd (.command hk hpath hfind) (hno _)
  | messageComponent =>
    simp only [handleComponent]
    cases hdata : i.data with
    | none => rfl
    | some data =>
      cases hid : data.customId with
      | none => simp [hid]
      | some id =>
        cases hget : d.components.get? id with
        | none => simp [hid, hget]
        | some handler => exact absurd (.component hk hdata hid hget) (hno _)
  | _ => rfl

def Target.attempt (ctx : MessageContext) : Target → Handling σ Response
  | command c args => do
    .throttle ctx c
    .runCommand ctx c args
  | component _ handler values => .runComponent ctx handler values

lemma handle_of_aims (haims : d.Aims i target) :
    d.handle i = (do
      let ctx ← .lift (MessageContext.ofInteraction i target.name)
      let r ← (target.attempt ctx).recover (d.onError ctx)
      .request (i.send r) : Handling σ Unit) := by
  cases haims with
  | command hk hpath hfind =>
    simp only [handle, hk, handleCommand, hpath, hfind]
    rfl
  | component hk hdata hid hget =>
    simp only [handle, hk, handleComponent, hdata, hid, hget, Option.bind_some, Option.map_some]
    rfl

lemma handle_of_error (haims : d.Aims i target)
    (hctx : MessageContext.ofInteraction i target.name = .error e) :
    d.handle i = (.lift (.error e) : Handling σ Unit) := by
  rw [handle_of_aims haims, hctx]
  rfl

lemma handle_of_ok (haims : d.Aims i target)
    (hctx : MessageContext.ofInteraction i target.name = .ok ctx) :
    d.handle i = (do
      let r ← (target.attempt ctx).recover (d.onError ctx)
      .request (i.send r) : Handling σ Unit) := by
  rw [handle_of_aims haims, hctx]
  rfl

namespace Target

def outcome (t : Cooldown.Throttler) (now : Time.Instant) (ctx : MessageContext) (target : Target) :
    Result BotError Response :=
  (target.throttle t now ctx).1.bind fun _ => .ofExcept (target.answer ctx)

def called (desk : Desk σ) (now : Time.Instant) (ctx : MessageContext) (target : Target) : Desk σ where
  throttler := (target.throttle desk.throttler now ctx).2
  server := desk.server
  steps := desk.steps ++ (target.consultation ctx ++
    if (target.throttle desk.throttler now ctx).1.isOk then [target.call ctx] else [])

lemma attempt_eq : (target.attempt ctx).run server now desk =
    (target.outcome desk.throttler now ctx, target.called desk now ctx) := by
  cases target with
  | command c args =>
    rw [attempt, Handling.run_bind, outcome, called]
    cases hv : desk.throttler.handle now ctx c with
    | mk verdict t =>
      cases verdict <;> simp [Handling.throttle, Handling.runCommand, Handling.consult, hv, throttle,
        consultation,
        Result.bind, Result.isOk, answer, Target.call]
  | component _ _ _ => rfl

end Target

section Dispatch

variable {h : Handling σ Unit}

lemma dispatch_of_handle {h : Handling σ Unit} (hi : Interaction.ofJson? payload = some i)
    (hh : (d.handle i).run server now desk = h.run server now desk') :
    (d.dispatch payload).run server now desk = (do h; pure i : Handling σ Interaction).run server now desk' := by
  rw [dispatch, hi]
  exact Handling.run_bind_congr hh

variable {x : Result BotError Response}

def settled (d : Dispatcher) (ctx : MessageContext) (desk : Desk σ) :
    Result BotError Response → Result BotError Response × Desk σ
  | .ok r => (.ok r, desk)
  | .error e =>
    match d.errorHook with
    | some hook => (.ofExcept (hook ctx e), { desk with steps := desk.steps ++ [.hook ctx e] })
    | none => (.error e, desk)
  | .overflow => (.overflow, desk)

lemma recover_eq : ((target.attempt ctx).recover (d.onError ctx)).run server now desk =
    d.settled ctx (target.called desk now ctx) (target.outcome desk.throttler now ctx) := by
  rw [Handling.run_recover, target.attempt_eq]
  unfold settled
  cases target.outcome desk.throttler now ctx with
  | ok r => rfl
  | overflow => rfl
  | error e =>
    dsimp only
    unfold onError
    cases d.errorHook <;> rfl

lemma dispatch_eq (server : Server σ) (now : Time.Instant) (desk : Desk σ)
    (hi : Interaction.ofJson? payload = some i) (haims : d.Aims i target)
    (hctx : MessageContext.ofInteraction i target.name = .ok ctx) :
    (d.dispatch payload).run server now desk =
      match d.settled ctx (target.called desk now ctx) (target.outcome desk.throttler now ctx) with
      | (.ok r, desk') => (do Handling.request (i.send r); pure i : Handling σ Interaction).run server now desk'
      | (.error e, desk') => (.error e, desk')
      | (.overflow, desk') => (.overflow, desk') := by
  rw [dispatch_of_handle hi (congrArg (Handling.run · server now desk) (handle_of_ok haims hctx)),
    Handling.run_bind, Handling.run_bind, recover_eq]
  rcases d.settled ctx (target.called desk now ctx) (target.outcome desk.throttler now ctx) with
    ⟨_ | _ | _, desk'⟩ <;> rfl

end Dispatch

/-- A command or component that is registered and somebody's: the throttler is asked once and first if it is
a command, the handler is called once if and only if nothing is held back, and the hook once if and only if
one of them failed and there is a hook. The response that results is posted, or its error is the result and
nothing is posted. In all other cases nothing is called, changed or posted. -/
theorem handled_once (d : Dispatcher) (payload : Json) (server : Server σ) (now : Time.Instant)
    (desk : Desk σ) :
    let result := (d.dispatch payload).run server now desk
    (Interaction.ofJson? payload = none → result = (.error .malformedJson, desk)) ∧
    ∀ i, Interaction.ofJson? payload = some i →
      ((∀ target, ¬d.Aims i target) → result = (.ok i, desk)) ∧
      ∀ target, d.Aims i target →
        (i.author? = none → result =
          (.error (.handler ("interaction " ++ i.id.text ++ " has no user or member")), desk)) ∧
        ∀ author, i.author? = some author →
          let ctx : MessageContext :=
            ⟨author, i.member, i.guildId, i.channelId, target.name, i.id⟩
          let verdict := (target.throttle desk.throttler now ctx).1
          let answer := verdict.bind fun _ => .ofExcept (target.answer ctx)
          let called : Desk σ := {
            throttler := (target.throttle desk.throttler now ctx).2
            server := desk.server
            steps := desk.steps ++
              (target.consultation ctx ++ if verdict.isOk then [target.call ctx] else []) }
          (∀ r, answer = .ok r → i.Posts r server called result) ∧
          (∀ e, answer = .error e → d.errorHook = none → result = (.error e, called)) ∧
          (∀ e hook, answer = .error e → d.errorHook = some hook →
            let hooked := { called with steps := called.steps ++ [.hook ctx e] }
            (∀ e', hook ctx e = .error e' → result = (.error e', hooked)) ∧
            ∀ r, hook ctx e = .ok r → i.Posts r server hooked result) ∧
          (answer = .overflow → result = (.overflow, called)) := by
  intro result
  refine ⟨fun hmalformed => ?_, fun i hi => ⟨fun hno => ?_, fun target haims => ⟨fun hnobody => ?_, ?_⟩⟩⟩
  · simp only [result, dispatch, hmalformed]
    rfl
  · have hh : (d.handle i).run server now desk = (pure () : Handling σ Unit).run server now desk := by
      rw [handle_of_no_aim hno]
    exact dispatch_of_handle hi hh
  · have hctx : MessageContext.ofInteraction i target.name =
        .error (.handler ("interaction " ++ i.id.text ++ " has no user or member")) := by
      rw [MessageContext.ofInteraction, hnobody]
    exact dispatch_of_handle hi (congrArg (Handling.run · server now desk) (handle_of_error haims hctx))
  · intro author hauthor ctx verdict answer called
    have hctx : MessageContext.ofInteraction i target.name = .ok ctx := by
      rw [MessageContext.ofInteraction, hauthor]
    have hresult : result = _ := dispatch_eq server now desk hi haims hctx
    have hdone : d.settled ctx (target.called desk now ctx) (target.outcome desk.throttler now ctx) =
        d.settled ctx called answer := rfl
    rw [hdone] at hresult
    refine ⟨fun r hr => ?_, fun e he hnone => ?_, fun e hook he hhook => ⟨fun e' he' => ?_, fun r hr => ?_⟩,
      fun hover => ?_⟩
    · rw [hresult, hr]
      exact i.posts_send r server now _
    · rw [hresult, he, settled, hnone]
    · rw [hresult, he, settled, hhook]
      dsimp only
      rw [he']
      rfl
    · rw [hresult, he, settled, hhook]
      dsimp only
      rw [hr]
      exact i.posts_send r server now _
    · rw [hresult, hover, settled]

def fail : RegisteredCommand where
  app := .named .chatInput "fail" "Out of order"
  handler _ _ := .error (.handler "out of order")
  cooldown := 0
  cooldownScale := 1
  cooldownScope := .user
  group := none
  subgroup := none

def apologetic : Dispatcher where
  commands := ⟨[fail]⟩
  components := {}
  errorHook := some fun _ _ => .ok ⟨[.ofText "Sorry.", .ofText "It is out of order.", .ofText "Bye."]⟩

def failCall : Json := .obj [
  ("id", .str "100"), ("application_id", .str "200"), ("type", .int 2), ("token", .str "tok"),
  ("data", .obj [("name", .str "fail")]),
  ("user", .obj [("id", .str "9"), ("username", .str "ada")])]

def flakyServer : Server Nat := fun n _ =>
  (if n = 1 then .error .transport else .ok none, n + 1)

theorem fail_handled_once :
    let result := (apologetic.dispatch failCall).run flakyServer 0 ⟨{}, 0, []⟩
    result.1 = .error .transport ∧ ∃ ctx args, result.2.steps = [
      .throttled ctx fail, .command ctx fail args, .hook ctx (.handler "out of order"),
      .called ⟨.post, "interactions/100/tok/callback",
        some (.obj [("type", .int 4), ("data", .obj [("content", .str "Sorry.")])])⟩,
      .called ⟨.post, "webhooks/200/tok", some (.obj [("content", .str "It is out of order.")])⟩] := by
  intro result
  obtain ⟨i, hi⟩ : ∃ i, Interaction.ofJson? failCall = some i :=
    Option.isSome_iff_exists.mp (by decide +kernel)
  have hparts : (Interaction.ofJson? failCall).map (fun i =>
        (i.kind, i.author?.isSome, i.commandPath?.map (keyOf i), i.callbackRoute, i.followupRoute)) =
      some (.applicationCommand, true, some ⟨"fail", none, .chatInput, none, none⟩,
        "interactions/100/tok/callback", "webhooks/200/tok") := by
    decide +kernel
  simp only [hi, Option.map_some, Option.some.injEq, Prod.mk.injEq] at hparts
  obtain ⟨hkind, hsomebody, hkey, hcallback, hfollowup⟩ := hparts
  obtain ⟨path, hpath, hkey⟩ := Option.map_eq_some_iff.mp hkey
  obtain ⟨author, hauthor⟩ := Option.isSome_iff_exists.mp hsomebody
  have haims : apologetic.Aims i (.command fail (arguments fail i path)) :=
    .command hkind hpath (by rw [hkey]; rfl)
  obtain ⟨-, -, hhook, -⟩ :=
    (((handled_once apologetic failCall flakyServer 0 ⟨{}, 0, []⟩).2 i hi).2 _ haims).2 author hauthor
  obtain ⟨-, hposts⟩ := hhook (.handler "out of order") _ rfl rfl
  obtain ⟨state, hresult⟩ :=
    (hposts _ rfl).2 [.ok none] (.error .transport) [.ok none] rfl (by simp [Result.isOk]) rfl
  rw [← hcallback, ← hfollowup]
  exact ⟨congrArg (·.1) hresult, _, _, congrArg (·.2.steps) hresult⟩

end Dispatcher

end DiscordBot
