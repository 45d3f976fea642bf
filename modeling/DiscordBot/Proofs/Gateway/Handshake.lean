import DiscordBot.Proofs.Gateway.Past
import Mathlib.Data.List.TakeWhile

/-! How a gateway answers greetings. It resumes only sessions that are still valid, at the number of the
latest event. -/

namespace DiscordBot.Gateway

variable {g : Settings} {s : State} {h : Happening}

def identifying (g : Settings) : Frame :=
  ⟨.identify, .obj [("token", .str g.token), ("intents", .int g.intents.toNat), ("properties",
    .obj [("os", .str "linux"), ("browser", .str "pincer"), ("device", .str "pincer")])], none, none⟩

def resuming (g : Settings) (id : String) (number : Json) : Frame :=
  ⟨.resume, .obj [("token", .str g.token), ("session_id", .str id), ("seq", number)], none, none⟩

lemma identify_eq (g : Settings) : g.identify = identifying g := rfl

lemma resumption_eq (g : Settings) (id : String) (sequence : Option UInt64) :
    g.resumption id sequence = resuming g id (numberJson sequence) := by
  cases sequence <;> rfl

def Happening.Greets (h : Happening) : Prop := ∃ f, h.frame? = some f ∧ f.op = .hello

lemma session_of_recalled {past : List Happening} {id : String}
    (hid : (recalled past).sessionId = some id) :
    ∃ later ready earlier, frames past = later ++ ready :: earlier ∧ ready.beginsSession = true ∧
      ready.data.string? "session_id" = some id ∧
      ∀ f ∈ later, f.beginsSession = false ∧ f.invalidates = false := by
  obtain ⟨ready, hfind, htext⟩ := Option.bind_eq_some_iff.mp hid
  obtain ⟨hbegins, later, earlier, hsplit, hlater⟩ := List.find?_eq_some_iff_append.mp hfind
  refine ⟨later, ready, earlier ++ (frames past).dropWhile fun f => !f.invalidates, ?_, hbegins, htext, ?_⟩
  · have hall : frames past = sessionFrames past ++ (frames past).dropWhile fun f => !f.invalidates :=
      List.takeWhile_append_dropWhile.symm
    rw [hsplit, List.append_assoc, List.cons_append] at hall
    exact hall
  · intro f hf
    have hvalid : f ∈ sessionFrames past := by
      rw [hsplit]
      exact List.mem_append_left _ hf
    exact ⟨by simpa using hlater f hf, by simpa using List.mem_takeWhile_imp hvalid⟩

lemma handshake_cases (g : Settings) (m : Memory) (resume : Bool) :
    g.handshake m resume = g.identify ∧ ¬(resume = true ∧ m.sessionId ≠ none) ∨
      ∃ id, g.handshake m resume = g.resumption id m.sequence ∧ resume = true ∧
        m.sessionId = some id := by
  unfold Settings.handshake
  cases hid : m.sessionId with
  | none => exact .inl ⟨rfl, fun h => h.2 rfl⟩
  | some id =>
    cases resume with
    | false => exact .inl ⟨rfl, fun h => Bool.false_ne_true h.1⟩
    | true => exact .inr ⟨id, rfl, rfl, rfl⟩

namespace State

lemma step_of_greets (ha : s.admits h = true) (hg : h.Greets) :
    ∃ resume, s.phase.resume? = some resume ∧
      (s.step g h).2 = [.sends (g.handshake s.memory resume) s.now] := by
  obtain ⟨f, hf, hop⟩ := hg
  cases h with
  | arrived message =>
    cases message with
    | text t =>
      have ht : Frame.ofText? t = some f := hf
      cases hp : s.phase with
      | connected resume heartbeats =>
        refine ⟨resume, rfl, ?_⟩
        simp only [step, hp, take, ht, takeFrame, hop]
      | _ => simp [admits, hp] at ha
    | _ => cases hf
  | _ => cases hf

lemma sent_takeFrame {f sent : Frame} {resume : Bool} (hop : f.op ≠ .hello)
    (hsent : sent ∈ sentFrames (s.takeFrame g resume f).2) : sent.op = .heartbeat := by
  unfold takeFrame at hsent
  cases hf : f.op <;> simp only [hf] at hsent
  case hello => exact absurd hf hop
  case heartbeat =>
    obtain rfl : sent = Gateway.heartbeat s.memory.sequence := by simpa [sentFrames] using hsent
    rfl
  case dispatch => split at hsent <;> simp [sentFrames] at hsent
  case invalidSession => split at hsent <;> simp [sentFrames] at hsent
  all_goals simp [sentFrames] at hsent

lemma sent_elapse {d : Time.Duration} {sent : Frame} (hsent : sent ∈ sentFrames (s.elapse d).2) :
    sent.op = .heartbeat := by
  unfold elapse at hsent
  dsimp only at hsent
  split at hsent
  · simp only [sentFrames, List.filterMap_map, List.mem_filterMap, Function.comp_apply,
      Option.some.injEq] at hsent
    obtain ⟨_, -, rfl⟩ := hsent
    rfl
  · simp [sentFrames] at hsent

lemma sent_of_not_greets (hg : ¬(s.admits h = true ∧ h.Greets)) {sent : Frame}
    (hsent : sent ∈ sentFrames (s.step g h).2) : sent.op = .heartbeat := by
  cases ha : s.admits h with
  | false =>
    rw [step_of_not_admits ha] at hsent
    simp [sentFrames] at hsent
  | true =>
    have hother : ¬h.Greets := fun hgreets => hg ⟨ha, hgreets⟩
    cases h with
    | elapsed d => exact sent_elapse hsent
    | abandoned => simp [step, sentFrames] at hsent
    | accepted => cases hp : s.phase <;> simp [step, hp, sentFrames] at hsent
    | refused => cases hp : s.phase <;> simp [step, hp, sentFrames] at hsent
    | arrived message =>
      cases hp : s.phase with
      | connected resume heartbeats =>
        simp only [step, hp] at hsent
        cases message with
        | text t =>
          cases ht : Frame.ofText? t with
          | none => simp [take, ht, sentFrames] at hsent
          | some f =>
            simp only [take, ht] at hsent
            exact sent_takeFrame (fun hop => hother ⟨f, ht, hop⟩) hsent
        | close code => cases code <;> simp [take, sentFrames] at hsent
        | _ => simp [take, sentFrames] at hsent
      | _ => simp [admits, hp] at ha

end State

/-- Each greeting is answered with one frame, and nothing else is. It resumes if and only if the
connection was opened to resume and there is a session, the one that the latest `READY` began and that was
not made invalid since, at the number of its latest event that had one; else it identifies. -/
theorem handshakes (g : Settings) (hs : List Happening) (h : Happening) :
    let s := (State.run g {} hs).1
    let before := past g hs
    ((s.admits h = true ∧ h.Greets) →
      ∃ reply, (State.run g {} (hs ++ [h])).2 = (State.run g {} hs).2 ++ [.sends reply s.now] ∧
        (reply.op = .resume ↔ opensToResume before = true ∧ s.memory.sessionId ≠ none) ∧
        (reply.op ≠ .resume → reply = identifying g) ∧
        (reply.op = .resume → ∃ id later ready earlier,
          reply = resuming g id (latestNumber before) ∧
          s.memory.sessionId = some id ∧
          frames before = later ++ ready :: earlier ∧ ready.beginsSession = true ∧
          ready.data.string? "session_id" = some id ∧
          ∀ f ∈ later, f.beginsSession = false ∧ f.invalidates = false)) ∧
    (¬(s.admits h = true ∧ h.Greets) →
      (State.run g {} (hs ++ [h])).2 = (State.run g {} hs).2 ++ (s.step g h).2 ∧
        ∀ f ∈ sentFrames (s.step g h).2, f.op = .heartbeat) := by
  intro s before
  have hrecalls : s.Recalls before := recalls_past g hs
  refine ⟨?_, fun hg => ⟨by rw [State.run_concat], fun f hf => State.sent_of_not_greets hg hf⟩⟩
  rintro ⟨ha, hg⟩
  obtain ⟨resume, hresume, hstep⟩ := State.step_of_greets (g := g) ha hg
  have hopened : resume = opensToResume before := hrecalls.resume resume hresume
  refine ⟨g.handshake s.memory resume, by rw [State.run_concat, hstep], ?_⟩
  rw [hopened]
  rcases handshake_cases g s.memory (opensToResume before) with ⟨hreply, hnot⟩ | ⟨id, hreply, ho, hid⟩
  · have hop : g.identify.op ≠ .resume := by simp [Settings.identify, Frame.ofOp]
    rw [hreply]
    exact ⟨⟨fun h => absurd h hop, fun h => absurd h hnot⟩, fun _ => identify_eq g, fun h => absurd h hop⟩
  · have hop : (g.resumption id s.memory.sequence).op = .resume := rfl
    have hsession : (recalled before).sessionId = some id := by rw [← hrecalls.memory, hid]
    obtain ⟨later, ready, earlier, hsplit, hbegins, htext, hlater⟩ := session_of_recalled hsession
    rw [hreply]
    refine ⟨⟨fun _ => ⟨ho, by simp [hid]⟩, fun _ => hop⟩, fun h => absurd hop h, fun _ => ?_⟩
    refine ⟨id, later, ready, earlier, ?_, hid, hsplit, hbegins, htext, hlater⟩
    rw [resumption_eq, hrecalls.memory]
    rfl

def interrupted : List Happening := [
  .accepted, .arrived (.text "[10]"),
  .arrived (.text "[0,\x7b\"session_id\":\"abc\"\x7d,1,\"READY\"]"),
  .arrived (.text "[0,null,2,\"MESSAGE_CREATE\"]"), .arrived (.text "[7]"), .accepted]

theorem interrupted_resumes :
    let g : Settings := { url := "wss://gateway.discord.gg", token := "secret" }
    let hello : Happening := .arrived (.text "[10]")
    ∃ time, (State.run g {} (interrupted ++ [hello])).2 =
      (State.run g {} interrupted).2 ++ [.sends (resuming g "abc" (.int 2)) time] := by
  intro g hello
  have hgreets : (State.run g {} interrupted).1.admits hello = true ∧ hello.Greets := by
    refine ⟨by decide +kernel, ?_⟩
    obtain ⟨f, hf⟩ : ∃ f, hello.frame? = some f := Option.isSome_iff_exists.mp (by decide +kernel)
    have hop : hello.frame?.map (·.op) = some .hello := by decide +kernel
    rw [hf] at hop
    exact ⟨f, hf, Option.some.inj hop⟩
  obtain ⟨reply, hsent, hresumes, -, hresume⟩ := (handshakes g interrupted hello).1 hgreets
  have hop : reply.op = .resume := hresumes.mpr ⟨by decide +kernel, by decide +kernel⟩
  obtain ⟨id, later, ready, earlier, hreply, hid, -⟩ := hresume hop
  have hstored : (State.run g {} interrupted).1.memory.sessionId = some "abc" := by decide +kernel
  have hnumber : latestNumber (past g interrupted) = .int 2 := by
    rw [latestNumber, show (sessionFrames (past g interrupted)).findSome? Frame.eventSequence? =
      some 2 by decide +kernel]
    rfl
  rw [hstored] at hid
  rw [hnumber, ← Option.some.inj hid] at hreply
  exact ⟨_, hreply ▸ hsent⟩

end DiscordBot.Gateway
