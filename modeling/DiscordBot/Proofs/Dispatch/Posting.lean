import DiscordBot.Dispatcher
import DiscordBot.Proofs.Rest.Program

/-! What is posted for a response. Its messages are posted one after another until a call fails. -/

namespace DiscordBot

open Rest (Call Outcome Program Server Session call)

variable {σ : Type}

namespace Rest

def outcomes (server : Server σ) : σ → List Call → List Outcome
  | _, [] => []
  | s, c :: cs => (server s c).1 :: outcomes server (server s c).2 cs

def callAll : List Call → Program Unit
  | [] => pure ()
  | c :: cs => do
    let _ ← call c
    callAll cs

variable {server : Server σ} {s : Session σ} {c : Call} {cs : List Call}

lemma run_callAll_cons :
    (callAll (c :: cs)).run server s = match server s.state c with
      | (.ok _, state) => (callAll cs).run server ⟨state, s.calls ++ [c]⟩
      | (.error e, state) => (.error e, ⟨state, s.calls ++ [c]⟩)
      | (.overflow, state) => (.overflow, ⟨state, s.calls ++ [c]⟩) := by
  rw [callAll, Program.run_bind, Program.run_call]
  rcases server s.state c with ⟨_ | _ | _, state⟩ <;> rfl

lemma run_callAll_of_ok (hok : ∀ x ∈ outcomes server s.state cs, x.isOk = true) :
    ∃ state, (callAll cs).run server s = (.ok (), ⟨state, s.calls ++ cs⟩) := by
  induction cs generalizing s with
  | nil => exact ⟨s.state, by rw [List.append_nil]; rfl⟩
  | cons c cs ih =>
    rw [outcomes, List.forall_mem_cons] at hok
    obtain ⟨hfirst, hlater⟩ := hok
    rw [run_callAll_cons]
    cases hc : server s.state c with
    | mk answer state =>
      rw [hc] at hfirst hlater
      obtain ⟨body, rfl⟩ := Result.isOk_iff.mp hfirst
      obtain ⟨final, hrun⟩ := ih (s := ⟨state, s.calls ++ [c]⟩) hlater
      refine ⟨final, hrun.trans ?_⟩
      rw [List.append_assoc, List.singleton_append]

lemma run_callAll_of_failed {earlier later : List Outcome} {x : Outcome}
    (hfailed : outcomes server s.state cs = earlier ++ x :: later)
    (hok : ∀ y ∈ earlier, y.isOk = true) (hbad : x.isOk = false) :
    ∃ state, (callAll cs).run server s =
      (x.map fun _ => (), ⟨state, s.calls ++ cs.take (earlier.length + 1)⟩) := by
  induction cs generalizing s earlier with
  | nil => simp [outcomes] at hfailed
  | cons c cs ih =>
    rw [run_callAll_cons]
    cases hc : server s.state c with
    | mk answer state =>
      rw [outcomes, hc] at hfailed
      cases earlier with
      | nil =>
        obtain rfl : answer = x := (List.cons.inj hfailed).1
        cases answer with
        | ok body => cases hbad
        | error e => exact ⟨state, rfl⟩
        | overflow => exact ⟨state, rfl⟩
      | cons y earlier =>
        obtain ⟨rfl, hrest⟩ := List.cons.inj hfailed
        rw [List.forall_mem_cons] at hok
        obtain ⟨hfirst, hlater⟩ := hok
        obtain ⟨body, rfl⟩ := Result.isOk_iff.mp hfirst
        obtain ⟨final, hrun⟩ := ih (s := ⟨state, s.calls ++ [c]⟩) hrest hlater
        refine ⟨final, hrun.trans ?_⟩
        rw [List.append_assoc, List.singleton_append, List.length_cons, List.take_succ_cons]

end Rest

namespace Handling

variable {α β : Type} {server : Server σ} {now : Time.Instant} {desk desk' : Desk σ} {h h' : Handling σ α}
  {f : α → Handling σ β}

lemma run_bind : (h >>= f).run server now desk = match h.run server now desk with
    | (.ok a, desk) => (f a).run server now desk
    | (.error e, desk) => (.error e, desk)
    | (.overflow, desk) => (.overflow, desk) := rfl

lemma run_bind_congr (heq : h.run server now desk = h'.run server now desk') :
    (h >>= f).run server now desk = (h' >>= f).run server now desk' := by
  rw [run_bind, run_bind, heq]

lemma run_recover (handle : BotError → Handling σ α) :
    (h.recover handle).run server now desk = match h.run server now desk with
      | (.ok a, desk) => (.ok a, desk)
      | (.error e, desk) => (handle e).run server now desk
      | (.overflow, desk) => (.overflow, desk) := by
  rw [recover]
  dsimp only
  rcases h.run server now desk with ⟨_ | _ | _, desk⟩ <;> rfl

lemma run_request (p : Program α) : (request p).run server now desk =
    ((p.run server ⟨desk.server, []⟩).1,
      ⟨desk.throttler, (p.run server ⟨desk.server, []⟩).2.state,
        desk.steps ++ (p.run server ⟨desk.server, []⟩).2.calls.map .called⟩) := rfl

end Handling

namespace Interaction

def postings (i : Interaction) : List Message → List Call
  | [] => []
  | m :: ms =>
    ⟨.post, "interactions/" ++ i.id.text ++ "/" ++ i.token ++ "/callback",
      some (.obj [("type", .int 4), ("data", m.toJson)])⟩ ::
    ms.map fun m => ⟨.post, "webhooks/" ++ i.applicationId.text ++ "/" ++ i.token, some m.toJson⟩

variable {i : Interaction} {server : Server σ} {desk : Desk σ}

lemma callbackCall_eq (m : Message) : i.callbackCall .channelMessageWithSource (some m) =
    ⟨.post, "interactions/" ++ i.id.text ++ "/" ++ i.token ++ "/callback",
      some (.obj [("type", .int 4), ("data", m.toJson)])⟩ := rfl

lemma followupCall_eq (m : Message) : i.followupCall m =
    ⟨.post, "webhooks/" ++ i.applicationId.text ++ "/" ++ i.token, some m.toJson⟩ := rfl

lemma followupAll_eq (ms : List Message) : i.followupAll ms = Rest.callAll (ms.map i.followupCall) := by
  induction ms with
  | nil => rfl
  | cons m ms ih => rw [followupAll, ih, List.map_cons, Rest.callAll, followup]

lemma send_eq (r : Response) : i.send r = Rest.callAll (i.postings r.messages) := by
  unfold send postings
  cases r.messages with
  | nil => rfl
  | cons m ms =>
    simp only [Rest.callAll, reply, respond, followupAll_eq, bind_assoc, pure_bind, callbackCall_eq,
      ← followupCall_eq]

/-- The messages of a response are posted in their order. The first call that fails is the last one that is
made, and its error is the result. -/
def Posts (i : Interaction) (r : Response) (server : Server σ) (desk : Desk σ)
    (result : Result BotError Interaction × Desk σ) : Prop :=
  let answers := Rest.outcomes server desk.server (i.postings r.messages)
  ((∀ x ∈ answers, x.isOk = true) → ∃ state, result = (.ok i,
    ⟨desk.throttler, state, desk.steps ++ (i.postings r.messages).map .called⟩)) ∧
  ∀ earlier x later, answers = earlier ++ x :: later → (∀ y ∈ earlier, y.isOk = true) → x.isOk = false →
    ∃ state, result = (x.map fun _ => i,
      ⟨desk.throttler, state, desk.steps ++ ((i.postings r.messages).take (earlier.length + 1)).map .called⟩)

lemma posts_send (i : Interaction) (r : Response) (server : Server σ) (now : Time.Instant) (desk : Desk σ) :
    i.Posts r server desk ((do Handling.request (i.send r); pure i : Handling σ Interaction).run server now desk) := by
  have hsent : ∀ (x : Result BotError Unit) (s : Session σ),
      (Rest.callAll (i.postings r.messages)).run server ⟨desk.server, []⟩ = (x, s) →
      (do Handling.request (i.send r); pure i : Handling σ Interaction).run server now desk =
        (x.map fun _ => i, ⟨desk.throttler, s.state, desk.steps ++ s.calls.map .called⟩) := by
    intro x s hrun
    rw [Handling.run_bind, send_eq, Handling.run_request, hrun]
    cases x <;> rfl
  refine ⟨fun hok => ?_, fun earlier x later hfailed hok hbad => ?_⟩
  · obtain ⟨state, hrun⟩ := Rest.run_callAll_of_ok (s := ⟨desk.server, []⟩) hok
    exact ⟨state, hsent _ _ hrun⟩
  · obtain ⟨state, hrun⟩ := Rest.run_callAll_of_failed (s := ⟨desk.server, []⟩) hfailed hok hbad
    refine ⟨state, (hsent _ _ hrun).trans ?_⟩
    rw [Result.map_map, List.nil_append]

lemma Posts.steps_ofMessage {m : Message} {result : Result BotError Interaction × Desk σ}
    (h : i.Posts (.ofMessage m) server desk result) :
    result.2.steps = desk.steps ++ (i.postings [m]).map .called := by
  obtain ⟨hok, hfailed⟩ := h
  let answer := (server desk.server (i.callbackCall .channelMessageWithSource (some m))).1
  have houtcomes : Rest.outcomes server desk.server (i.postings (Response.ofMessage m).messages) = [answer] :=
    rfl
  rw [houtcomes] at hok hfailed
  cases hanswer : answer.isOk with
  | true =>
    obtain ⟨state, rfl⟩ := hok (by simpa using hanswer)
    rfl
  | false =>
    obtain ⟨state, rfl⟩ := hfailed [] answer [] rfl (List.forall_mem_nil _) hanswer
    rfl

end Interaction

end DiscordBot
