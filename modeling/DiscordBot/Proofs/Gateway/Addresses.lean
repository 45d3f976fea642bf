import DiscordBot.Proofs.Gateway.Connections
import DiscordBot.Proofs.Gateway.Handshake

/-! Where a gateway connects to and how it answers there. The address is chosen when a connection is
opened, by the URL that a session has named, and the answer when a greeting arrives, by the id that it
has named. A `READY` may hold one of them without the other. -/

namespace DiscordBot.Gateway

open Time (Instant)

def Settings.addressOf (g : Settings) (url : String) : String :=
  Text.dropTrailing '/' url ++ "/?v=" ++ toString g.version.toNat ++ "&encoding=json"

def storedUrl? (past : List Happening) : Option String :=
  if opensToResume past then (recalled past).resumeUrl else none

def beforeOpening : List Happening → List Happening
  | [] => []
  | .accepted :: past | .refused :: past => past
  | _ :: past => beforeOpening past

def nameless (past : List Happening) : Bool :=
  ((sessionFrames past).find? Frame.beginsSession).any fun ready =>
    (ready.data.string? "session_id").isNone

variable {g : Settings} {earlier hs : List Happening} {h : Happening} {resume : Bool}
  {beats : Option Heartbeats}

lemma address_recalled (g : Settings) (past : List Happening) :
    g.address (recalled past) (opensToResume past) = g.addressOf ((storedUrl? past).getD g.url) := by
  unfold Settings.address Settings.addressOf storedUrl?
  cases (recalled past).resumeUrl <;> cases opensToResume past <;> rfl

lemma identify_op : g.identify.op ≠ .resume := by
  simp [Settings.identify, Frame.ofOp]

lemma handshake_op {m : Memory} :
    (g.handshake m resume).op = .resume ↔ resume = true ∧ m.sessionId ≠ none := by
  rcases handshake_cases g m resume with ⟨hreply, hnot⟩ | ⟨id, hreply, hresume, hid⟩
  · rw [hreply]
    exact iff_of_false identify_op hnot
  · rw [hreply]
    exact iff_of_true rfl ⟨hresume, by simp [hid]⟩

lemma handshake_of_op {m : Memory} (hop : (g.handshake m resume).op ≠ .resume) :
    g.handshake m resume = g.identify := by
  rcases handshake_cases g m resume with ⟨hreply, -⟩ | ⟨id, hreply, -⟩
  · exact hreply
  · rw [hreply] at hop
    exact absurd rfl hop

lemma openings_append (es fs : List Effect) : openings (es ++ fs) = openings es ++ openings fs :=
  List.filterMap_append

lemma State.connected_of_greets {s : State} (ha : s.admits h = true) (hg : h.Greets) :
    ∃ resume beats, s.phase = .connected resume beats := by
  obtain ⟨f, hf, -⟩ := hg
  cases h with
  | arrived message =>
    cases hp : s.phase with
    | connected resume beats => exact ⟨resume, beats, rfl⟩
    | _ => simp [admits, hp] at ha
  | _ => cases hf

section Connected

variable {s : State} {next : State × List Effect}

namespace State

lemma Turn.goes_on_of_connected (ht : s.Turn g h next) (hp : next.1.phase = .connected resume beats) :
    h.ending? s.heard = none := by
  cases he : h.ending? s.heard with
  | none => rfl
  | some e =>
    rw [ht.of_ending he] at hp
    cases e <;> cases hp

lemma openings_elapse (s : State) (d : Time.Duration) : openings (s.elapse d).2 = [] := by
  unfold elapse
  dsimp only
  split
  · simp [openings]
  · rfl

lemma connected_of_elapse {d : Time.Duration} (hp : (s.elapse d).1.phase = .connected resume beats) :
    ∃ beats, s.phase = .connected resume beats := by
  unfold elapse at hp
  dsimp only at hp
  split at hp
  · next hc =>
    cases hp
    exact ⟨_, hc⟩
  · exact ⟨_, hp⟩

lemma Turn.opened_or_kept (ht : s.Turn g h next) (hp : next.1.phase = .connected resume beats) :
    (h = .accepted ∧ s.phase.resume? = some resume ∧
      ∃ t, next.2 = [.opens (g.address s.memory resume) resume t]) ∨
    (¬h.Attempts ∧ (∃ beats, s.phase = .connected resume beats) ∧ openings next.2 = []) := by
  cases ht with
  | opened hc =>
    cases hp
    exact .inl ⟨rfl, by rw [hc]; rfl, _, rfl⟩
  | refused => cases hp
  | @ended _ _ e => cases e <;> cases hp
  | greeted hc =>
    cases hp
    exact .inr ⟨by simp [Happening.Attempts], ⟨_, hc⟩, rfl⟩
  | passed =>
    exact .inr ⟨by simp [Happening.Attempts], connected_of_elapse hp, openings_elapse s _⟩
  | _ => exact .inr ⟨by simp [Happening.Attempts], ⟨_, hp⟩, rfl⟩

end State

lemma beforeOpening_of_not_attempts (hn : ¬h.Attempts) :
    beforeOpening (h :: earlier) = beforeOpening earlier := by
  cases h with
  | accepted => exact absurd (.inl rfl) hn
  | refused => exact absurd (.inr rfl) hn
  | _ => rfl

lemma sessionFrames_suffix {heard : Bool} (he : h.ending? heard = none) :
    sessionFrames earlier <:+ sessionFrames (h :: earlier) := by
  cases hf : h.frame? with
  | none => simp [sessionFrames, frames, hf]
  | some f =>
    have hvalid : f.invalidates = false := by
      apply invalidates_of_op
      intro hop
      simp [Happening.ending?_of_frame hf, Frame.ending?, hop] at he
    simp [sessionFrames, frames, hf, hvalid, List.suffix_cons]

/-- A connection that was opened at a time: where it went and what for. The session that it found then
was not made invalid on it. -/
structure Opened (g : Settings) (hs : List Happening) (resume : Bool) (t : Instant) : Prop where
  opening : (openings (State.run g {} hs).2).getLast? =
    some (g.addressOf ((storedUrl? (beforeOpening (past g hs))).getD g.url), t)
  resume : opensToResume (beforeOpening (past g hs)) = resume
  session : sessionFrames (beforeOpening (past g hs)) <:+ sessionFrames (past g hs)

lemma opened_of_connected (hs : List Happening)
    (hp : (State.run g {} hs).1.phase = .connected resume beats) : ∃ t, Opened g hs resume t := by
  -- From the latest happening on: it has opened the connection, or the connection was up before it.
  induction hs using List.reverseRecOn generalizing beats with
  | nil => cases hp
  | append_singleton hs h ih =>
    have hrecalls := recalls_past g hs
    rw [State.run_concat] at hp
    cases ha : (State.run g {} hs).1.admits h with
    | false =>
      rw [State.step_of_not_admits ha] at hp
      obtain ⟨t, ho⟩ := ih hp
      have hpast : past g (hs ++ [h]) = past g hs := by simp [past_concat, ha]
      refine ⟨t, ?_, hpast ▸ ho.resume, hpast ▸ ho.session⟩
      rw [State.run_concat, State.step_of_not_admits ha, List.append_nil, hpast]
      exact ho.opening
    | true =>
      have ht := State.turn (g := g) ha
      have hpast : past g (hs ++ [h]) = h :: past g hs := by simp [past_concat, ha]
      have hkeeps : sessionFrames (past g hs) <:+ sessionFrames (h :: past g hs) :=
        sessionFrames_suffix (ht.goes_on_of_connected hp)
      rcases ht.opened_or_kept hp with ⟨rfl, hresume, t, hopens⟩ | ⟨hattempts, ⟨_, hc⟩, hnone⟩
      · have hopened : resume = opensToResume (past g hs) := hrecalls.resume resume hresume
        refine ⟨t, ?_, by rw [hpast, hopened]; rfl, by rw [hpast]; exact hkeeps⟩
        rw [State.run_concat, hopens, openings_append, hrecalls.memory, hopened, address_recalled, hpast]
        exact List.getLast?_concat
      · obtain ⟨t, ho⟩ := ih hc
        have hbefore : beforeOpening (past g (hs ++ [h])) = beforeOpening (past g hs) := by
          rw [hpast, beforeOpening_of_not_attempts hattempts]
        refine ⟨t, ?_, hbefore ▸ ho.resume, ?_⟩
        · rw [State.run_concat, openings_append, hnone, List.append_nil, hbefore]
          exact ho.opening
        · rw [hbefore, hpast]
          exact ho.session.trans hkeeps

end Connected

lemma nameless_iff {before : List Happening} (hs : sessionFrames before <:+ sessionFrames earlier)
    (hurl : (recalled before).resumeUrl ≠ none) :
    nameless earlier = false ↔ (recalled earlier).sessionId ≠ none := by
  obtain ⟨url, hurl⟩ := Option.ne_none_iff_exists'.mp hurl
  obtain ⟨old, hold, -⟩ := Option.bind_eq_some_iff.mp hurl
  obtain ⟨later, hlater⟩ := hs
  have hfound : ((sessionFrames earlier).find? Frame.beginsSession).isSome := by
    rw [← hlater, List.find?_append, hold]
    simp
  obtain ⟨ready, hready⟩ := Option.isSome_iff_exists.mp hfound
  simp [nameless, recalled, sessionText?, hready, Option.isSome_iff_ne_none]

/-- A greeting is answered on the connection that was opened last. If that went to the URL that the
session had named, it is answered by resuming, unless the latest session was begun without an id. Only
then does a gateway identify elsewhere than at the URL that it was made with. -/
theorem answered_where_opened (g : Settings) (hs : List Happening) (hello : Happening)
    (ha : (State.run g {} hs).1.admits hello = true) (hg : hello.Greets) :
    let stored := storedUrl? (beforeOpening (past g hs))
    ∃ opened reply t,
      (openings (State.run g {} hs).2).getLast? = some (g.addressOf (stored.getD g.url), opened) ∧
      (State.run g {} (hs ++ [hello])).2 = (State.run g {} hs).2 ++ [.sends reply t] ∧
      (reply.op ≠ .resume → reply = g.identify) ∧
      (stored ≠ none → (reply.op = .resume ↔ nameless (past g hs) = false)) ∧
      (reply = g.identify → stored = none ∨ nameless (past g hs) = true) := by
  intro stored
  obtain ⟨resume, beats, hp⟩ := State.connected_of_greets ha hg
  obtain ⟨opened, ho⟩ := opened_of_connected hs hp
  obtain ⟨resume', hresume, hstep⟩ := State.step_of_greets (g := g) ha hg
  obtain rfl : resume = resume' := by simpa [hp, Phase.resume?] using hresume
  have hback : stored ≠ none →
      ((g.handshake (State.run g {} hs).1.memory resume).op = .resume ↔
        nameless (past g hs) = false) := by
    intro hstored
    have hresumes : resume = true := by
      by_contra hnot
      exact hstored (if_neg (by rwa [ho.resume]))
    have hurl : stored = (recalled (beforeOpening (past g hs))).resumeUrl :=
      if_pos (ho.resume.trans hresumes)
    rw [handshake_op, (recalls_past g hs).memory, nameless_iff ho.session (hurl ▸ hstored)]
    exact and_iff_right hresumes
  refine ⟨opened, _, _, ho.opening, by rw [State.run_concat, hstep], handshake_of_op, hback, ?_⟩
  intro hidentify
  rw [hidentify] at hback
  by_cases hstored : stored = none
  · exact .inl hstored
  · exact .inr (by simpa using fun hnamed => identify_op ((hback hstored).mpr hnamed))

def moved (ready : String) : List Happening := [
  .accepted, .arrived (.text "[10]"), .arrived (.text ready), .arrived (.text "[7]"), .accepted]

lemma greets_ten : (Happening.arrived (.text "[10]")).Greets :=
  Happening.brings_iff.mpr (by decide +kernel)

theorem moved_answered :
    let g : Settings := { url := "wss://gateway.discord.gg", token := "secret" }
    let hs := moved
      "[0,\x7b\"session_id\":\"abc\",\"resume_gateway_url\":\"wss://eu.discord.gg\"\x7d,1,\"READY\"]"
    ∃ opened reply t,
      (openings (State.run g {} hs).2).getLast? =
        some ("wss://eu.discord.gg/?v=10&encoding=json", opened) ∧
      (State.run g {} (hs ++ [.arrived (.text "[10]")])).2 =
        (State.run g {} hs).2 ++ [.sends reply t] ∧
      reply.op = .resume := by
  intro g hs
  have ha : (State.run g {} hs).1.admits (.arrived (.text "[10]")) = true := by decide +kernel
  have hstored : storedUrl? (beforeOpening (past g hs)) = some "wss://eu.discord.gg" := by decide +kernel
  obtain ⟨opened, reply, t, hopens, hsent, -, hresumes, -⟩ := answered_where_opened g hs _ ha greets_ten
  have haddress : g.addressOf "wss://eu.discord.gg" = "wss://eu.discord.gg/?v=10&encoding=json" := by
    decide +kernel
  rw [hstored, Option.getD_some, haddress] at hopens
  exact ⟨opened, reply, t, hopens, hsent, (hresumes (by simp [hstored])).mpr (by decide +kernel)⟩

theorem moved_identified :
    let g : Settings := { url := "wss://gateway.discord.gg", token := "secret" }
    let hs := moved "[0,\x7b\"resume_gateway_url\":\"wss://eu.discord.gg\"\x7d,1,\"READY\"]"
    (State.run g {} hs).1.memory.resumeUrl = some "wss://eu.discord.gg" ∧
      openings (State.run g {} hs).2 = [("wss://gateway.discord.gg/?v=10&encoding=json", 0),
        ("wss://eu.discord.gg/?v=10&encoding=json", 0)] ∧
      ∃ t, (State.run g {} (hs ++ [.arrived (.text "[10]")])).2 =
        (State.run g {} hs).2 ++ [.sends g.identify t] := by
  intro g hs
  refine ⟨by decide +kernel, by decide +kernel, ?_⟩
  obtain ⟨resume, -, hstep⟩ := State.step_of_greets (g := g) (s := (State.run g {} hs).1)
    (by decide +kernel) greets_ten
  have hid : (State.run g {} hs).1.memory.sessionId = none := by decide +kernel
  have hop : (g.handshake (State.run g {} hs).1.memory resume).op ≠ .resume := by
    simp [handshake_op, hid]
  rw [State.run_concat, hstep, handshake_of_op hop]
  exact ⟨_, rfl⟩

end DiscordBot.Gateway
