import DiscordBot.Proofs.Gateway.Turns

/-! What becomes of events and of connections. An event that arrives while somebody waits for events is
handed on, once and as it is. A gateway stops for two reasons only and connects again after any other end
of a connection. -/

namespace DiscordBot

open Time (Instant)

namespace Gateway

lemma isFatalClose_iff {code : Nat} :
    isFatalClose code = true ↔ code = 4004 ∨ 4010 ≤ code ∧ code ≤ 4014 := by
  simp [isFatalClose]

end Gateway

namespace Gateway

namespace Happening

inductive Breaks : Happening → Prop
  | refused : Breaks .refused
  | fault : Breaks (.arrived .fault)
  | closed {code : Option Nat} : (∀ n ∈ code, isFatalClose n = false) → Breaks (.arrived (.close code))

def event? (h : Happening) : Option Frame := h.frame?.filter fun f => f.op == .dispatch

def Passes (h : Happening) : Prop := h = .abandoned ∨ ∃ d, h = .elapsed d

def Attempts (h : Happening) : Prop := h = .accepted ∨ h = .refused

end Happening

def Ending.result? : Ending → Option (Except BotError Unit)
  | .unheard => some (.ok ())
  | .fatal code => some (.error (.gateway ("closed with fatal code " ++ toString code)))
  | _ => none

def Phase.isConnecting : Phase → Bool
  | .connecting .. => true
  | _ => false

def heardEvents (hs : List Happening) : List Frame :=
  (hs.takeWhile fun h => !h.abandons).filterMap Happening.event?

lemma event?_of_abandons {h : Happening} (ha : h.abandons = true) : h.event? = none := by
  cases h with
  | abandoned => rfl
  | _ => cases ha

lemma event?_eq_none {h : Happening} (hd : ¬h.Brings .dispatch) : h.event? = none := by
  cases hf : h.frame? with
  | none => simp [Happening.event?, hf]
  | some f =>
    rw [Happening.brings_of_frame hf] at hd
    simp [Happening.event?, hf, hd]

lemma event?_of_ending {h : Happening} {e : Ending} (he : h.ending? true = some e) :
    h.event? = none := by
  apply event?_eq_none
  rintro ⟨f, hf, hop⟩
  simp [Happening.ending?_of_frame hf, Frame.ending?, hop] at he

lemma heardEvents_cons {h : Happening} {hs : List Happening} :
    heardEvents (h :: hs) = if h.abandons then [] else h.event?.toList ++ heardEvents hs := by
  cases ha : h.abandons with
  | true => simp [heardEvents, ha]
  | false => cases he : h.event? <;> simp [heardEvents, ha, he]

inductive Happening.Ends (heard : Bool) : Happening → Ending → Prop
  | broken {h : Happening} : h.Breaks → Ends heard h .broken
  | fatal {code : Nat} : isFatalClose code = true → Ends heard (.arrived (.close (some code))) (.fatal code)
  | unheard {h : Happening} : h.Brings .dispatch → heard = false → Ends heard h .unheard
  | reconnect {h : Happening} : h.Brings .reconnect → Ends heard h (.asked true)
  | invalid {h : Happening} {f : Frame} : h.frame? = some f → f.op = .invalidSession →
      Ends heard h (.asked !f.invalidates)

section Endings

variable {h : Happening} {f : Frame} {heard : Bool} {e : Ending}

lemma ends_of_frame (hf : h.frame? = some f) (he : f.ending? heard = some e) : h.Ends heard e := by
  unfold Frame.ending? at he
  cases hop : f.op <;> simp only [hop] at he
  case dispatch =>
    cases hheard : heard with
    | true => simp [hheard] at he
    | false =>
      obtain rfl : Ending.unheard = e := by simpa [hheard] using he
      exact .unheard ⟨f, hf, hop⟩ rfl
  case reconnect =>
    cases he
    exact .reconnect ⟨f, hf, hop⟩
  case invalidSession =>
    cases he
    exact .invalid hf hop
  all_goals cases he

lemma ends_of_ending? (he : h.ending? heard = some e) : h.Ends heard e := by
  cases h with
  | refused =>
    cases he
    exact .broken .refused
  | arrived message =>
    cases message with
    | fault =>
      cases he
      exact .broken .fault
    | close code =>
      cases code with
      | none =>
        cases he
        exact .broken (.closed nofun)
      | some code =>
        obtain rfl := Option.some.inj he
        by_cases hcode : isFatalClose code = true
        · rw [if_pos hcode]
          exact .fatal hcode
        · rw [if_neg hcode]
          refine .broken (.closed fun n hn => ?_)
          rw [← Option.some.inj hn]
          simpa using hcode
    | text t =>
      obtain ⟨f, hf, he⟩ := Option.bind_eq_some_iff.mp he
      exact ends_of_frame hf he
    | other => cases he
  | _ => cases he

lemma ending?_of_ends (he : h.Ends heard e) : h.ending? heard = some e := by
  cases he with
  | broken hb =>
    cases hb with
    | refused => rfl
    | fault => rfl
    | @closed code hcode =>
      cases code with
      | none => rfl
      | some n => simp [Happening.ending?, hcode n rfl]
  | fatal hcode => simp [Happening.ending?, hcode]
  | unheard hb hheard =>
    obtain ⟨f, hf, hop⟩ := hb
    rw [Happening.ending?_of_frame hf]
    simp [Frame.ending?, hop, hheard]
  | reconnect hb =>
    obtain ⟨f, hf, hop⟩ := hb
    rw [Happening.ending?_of_frame hf]
    simp [Frame.ending?, hop]
  | invalid hf hop =>
    rw [Happening.ending?_of_frame hf]
    simp [Frame.ending?, hop]

end Endings

namespace State

variable {g : Settings} {s : State} {h : Happening} {hs : List Happening} {e : Ending}

lemma run_heard : (State.run g s hs).1.heard = (s.heard && hs.all fun h => !h.abandons) := by
  induction hs generalizing s with
  | nil => simp [State.run]
  | cons h hs ih =>
    simp only [State.run, ih, step_heard, List.all_cons, Bool.and_assoc]

lemma Turn.forwarded {next : State × List Effect} (ht : s.Turn g h next) :
    forwardedFrames next.2 = if s.heard then h.event?.toList else [] := by
  -- Without an event there is nothing to hand on.
  have hsilent : h.event? = none → (if s.heard then h.event?.toList else []) = ([] : List Frame) := by
    intro he
    simp [he]
  cases ht with
  | ended he =>
    cases hheard : s.heard with
    | false => rfl
    | true =>
      rw [hheard] at he
      rw [event?_of_ending he]
      rfl
  | greeted _ hf hop =>
    rw [hsilent (event?_eq_none (by simp [Happening.brings_of_frame hf, hop]))]
    rfl
  | noted hf hop hheard =>
    rw [if_pos hheard]
    simp [forwardedFrames, Happening.event?, hf, Option.filter, hop]
  | requested hf hop =>
    rw [hsilent (event?_eq_none (by simp [Happening.brings_of_frame hf, hop]))]
    rfl
  | ignored _ hother =>
    rw [hsilent (event?_eq_none (hother _ (by simp)))]
    rfl
  | passed =>
    rw [hsilent rfl]
    unfold elapse
    dsimp only
    split <;> simp [forwardedFrames]
  | _ =>
    rw [hsilent rfl]
    rfl

lemma forwarded_run : forwardedFrames (State.run g s hs).2 =
    if s.heard then heardEvents (happened g s hs) else [] := by
  induction hs generalizing s with
  | nil => simp [State.run, forwardedFrames, happened, heardEvents]
  | cons h hs ih =>
    have hsplit : forwardedFrames (State.run g s (h :: hs)).2 =
        forwardedFrames (s.step g h).2 ++ forwardedFrames (State.run g (s.step g h).1 hs).2 := by
      simp only [State.run, forwardedFrames, List.filterMap_append]
    rw [hsplit, ih]
    cases ha : s.admits h with
    | false => simp [step_of_not_admits ha, happened, ha, forwardedFrames]
    | true =>
      have hlater : happened g s (h :: hs) = h :: happened g (s.step g h).1 hs := by
        simp [happened, ha]
      rw [(turn ha).forwarded, step_heard, hlater, heardEvents_cons]
      cases hheard : s.heard with
      | false => simp
      | true =>
        cases habandons : h.abandons with
        | true => simp [event?_of_abandons habandons]
        | false => simp

/-- Whatever passes, the next thing that it does is to open a connection, and not before a time. -/
def Reopens (g : Settings) (s : State) (earliest : Instant) : Prop :=
  ∀ idle attempt, (∀ h ∈ idle, Happening.Passes h) → Happening.Attempts attempt →
    ∃ url resume, (State.run g s (idle ++ [attempt])).2 =
      [.opens url resume (max (State.run g s idle).1.now earliest)]

lemma run_idle {idle : List Happening} {resume : Bool} {earliest : Instant}
    (hidle : ∀ h ∈ idle, h.Passes) (hp : s.phase = .connecting resume earliest) :
    (State.run g s idle).1.phase = .connecting resume earliest ∧ (State.run g s idle).2 = [] := by
  induction idle generalizing s with
  | nil => exact ⟨hp, rfl⟩
  | cons h idle ih =>
    have hstep : (s.step g h).1.phase = .connecting resume earliest ∧ (s.step g h).2 = [] := by
      rcases hidle h List.mem_cons_self with rfl | ⟨d, rfl⟩
      · exact ⟨hp, rfl⟩
      · simp [step, elapse, hp]
    obtain ⟨hphase, hsent⟩ := ih (fun k hk => hidle k (List.mem_cons_of_mem _ hk)) hstep.1
    exact ⟨hphase, by simp [State.run, hstep.2, hsent]⟩

lemma reopens_of_connecting {resume : Bool} {earliest : Instant}
    (hp : s.phase = .connecting resume earliest) : s.Reopens g earliest := by
  intro idle attempt hidle hattempt
  obtain ⟨hphase, hsent⟩ := run_idle (g := g) hidle hp
  rw [run_concat, hsent]
  rcases hattempt with rfl | rfl
  · exact ⟨_, resume, by simp only [step, hphase]; rfl⟩
  · exact ⟨_, resume, by simp only [step, hphase]; rfl⟩

lemma step_result (ha : s.admits h = true) (hr : s.result? = none) :
    (s.step g h).1.result? = (h.ending? s.heard).bind Ending.result? := by
  cases he : h.ending? s.heard with
  | none =>
    rcases (turn (g := g) ha).goes_on he with hp | ⟨resume, beats, hp⟩
    · rw [result?, hp]
      exact hr
    · simp only [result?, hp, Option.bind_none]
  | some e =>
    rw [result?, (turn ha).of_ending he]
    cases e <;> rfl

lemma step_isConnecting (ha : s.admits h = true) (hc : (s.step g h).1.phase.isConnecting = true) :
    s.phase.isConnecting = true ∨ h.Breaks ∨ h.Brings .reconnect ∨ h.Brings .invalidSession := by
  cases he : h.ending? s.heard with
  | none =>
    rcases (turn (g := g) ha).goes_on he with hp | ⟨resume, beats, hp⟩
    · exact Or.inl (hp ▸ hc)
    · simp [hp, Phase.isConnecting] at hc
  | some e =>
    rw [(turn ha).of_ending he] at hc
    cases ends_of_ending? he with
    | broken hb => exact Or.inr (Or.inl hb)
    | reconnect hb => exact Or.inr (Or.inr (Or.inl hb))
    | invalid hf hop => exact Or.inr (Or.inr (Or.inr ⟨_, hf, hop⟩))
    | _ => cases hc

lemma result_ok_iff (ha : s.admits h = true) (hr : s.result? = none) :
    (s.step g h).1.result? = some (.ok ()) ↔ h.Brings .dispatch ∧ s.heard = false := by
  rw [step_result ha hr, Option.bind_eq_some_iff]
  constructor
  · rintro ⟨ending, he, hok⟩
    cases ends_of_ending? he with
    | unheard hb hheard => exact ⟨hb, hheard⟩
    | _ => cases hok
  · rintro ⟨hb, hheard⟩
    exact ⟨.unheard, ending?_of_ends (.unheard hb hheard), rfl⟩

lemma result_error_iff {error : BotError} (ha : s.admits h = true) (hr : s.result? = none) :
    (s.step g h).1.result? = some (.error error) ↔ ∃ code, h = .arrived (.close (some code)) ∧
      isFatalClose code = true ∧ error = .gateway ("closed with fatal code " ++ toString code) := by
  rw [step_result ha hr, Option.bind_eq_some_iff]
  constructor
  · rintro ⟨ending, he, herror⟩
    cases ends_of_ending? he with
    | @fatal code hcode =>
      exact ⟨code, rfl, hcode, (Except.error.inj (Option.some.inj herror)).symm⟩
    | _ => cases herror
  · rintro ⟨code, rfl, hcode, rfl⟩
    exact ⟨.fatal code, ending?_of_ends (.fatal hcode), rfl⟩

lemma reopens_of_breaks (ha : s.admits h = true) (hb : h.Breaks) :
    (s.step g h).1.Reopens g (Time.Duration.nextTick ((s.step g h).1.now + g.reconnectDelay)) :=
  reopens_of_connecting ((turn ha).of_ending (ending?_of_ends (.broken hb)))

lemma reopens_of_asked (ha : s.admits h = true)
    (hb : h.Brings .reconnect ∨ h.Brings .invalidSession) :
    (s.step g h).1.Reopens g (s.step g h).1.now := by
  rcases hb with hb | ⟨f, hf, hop⟩
  · exact reopens_of_connecting ((turn ha).of_ending (ending?_of_ends (.reconnect hb)))
  · exact reopens_of_connecting ((turn ha).of_ending (ending?_of_ends (.invalid hf hop)))

lemma step_of_finished (hr : s.result? ≠ none) :
    (s.step g h).1.result? = s.result? ∧ (s.step g h).2 = [] := by
  cases hp : s.phase with
  | finished result => cases h <;> simp [step, elapse, hp, result?]
  | _ => simp [result?, hp] at hr

end State

lemma heard_eq_false_iff {g : Settings} {hs : List Happening} :
    (State.run g {} hs).1.heard = false ↔ .abandoned ∈ hs := by
  rw [State.run_heard, Bool.true_and, List.all_eq_false]
  constructor
  · rintro ⟨h, hh, ha⟩
    rwa [← Happening.abandons_iff.mp (by simpa using ha)]
  · intro hh
    exact ⟨_, hh, by simp [Happening.abandons]⟩

/-- What is handed on are the events that arrived while somebody waited for them. The run is over when one
arrives that nobody waits for or when the gateway is closed for good, and then nothing more is done. After
any other end of a connection a new one is opened, after the delay if the end was an error and else at
once. -/
theorem events_forwarded (g : Settings) (hs : List Happening) :
    let s := (State.run g {} hs).1
    forwardedFrames (State.run g {} hs).2 = heardEvents (State.happened g {} hs) ∧
    (s.result? ≠ none → ∀ h, (State.run g {} (hs ++ [h])).1.result? = s.result? ∧
      (State.run g {} (hs ++ [h])).2 = (State.run g {} hs).2) ∧
    (s.result? = none → ∀ h, s.admits h = true →
      let s' := (State.run g {} (hs ++ [h])).1
      (s'.result? = some (.ok ()) ↔ h.Brings .dispatch ∧ .abandoned ∈ hs) ∧
      (∀ e, s'.result? = some (.error e) ↔ ∃ code, h = .arrived (.close (some code)) ∧
        (code = 4004 ∨ 4010 ≤ code ∧ code ≤ 4014) ∧
        e = .gateway ("closed with fatal code " ++ toString code)) ∧
      (h.Breaks → ∃ earliest, s'.now + g.reconnectDelay ≤ earliest ∧
        earliest < s'.now + g.reconnectDelay + Time.nanosPerMilli ∧ s'.Reopens g earliest) ∧
      (h.Brings .reconnect ∨ h.Brings .invalidSession → s'.Reopens g s'.now) ∧
      (s'.phase.isConnecting = true → s.phase.isConnecting = true ∨ h.Breaks ∨
        h.Brings .reconnect ∨ h.Brings .invalidSession)) := by
  intro s
  refine ⟨State.forwarded_run, ?_, ?_⟩
  · intro hr h
    obtain ⟨hresult, hsent⟩ := State.step_of_finished (g := g) (h := h) hr
    rw [State.run_concat, hsent, List.append_nil]
    exact ⟨hresult, rfl⟩
  intro hr h ha s'
  have hs' : s' = (s.step g h).1 := by simp only [s', s, State.run_concat]
  rw [hs']
  refine ⟨?_, fun e => ?_, fun hb => ?_, State.reopens_of_asked ha, State.step_isConnecting ha⟩
  · rw [State.result_ok_iff ha hr, heard_eq_false_iff]
  · simp only [State.result_error_iff ha hr, isFatalClose_iff]
  · obtain ⟨hleast, hlatest⟩ := Time.Duration.nextTick_bounds ((s.step g h).1.now + g.reconnectDelay)
    exact ⟨_, hleast, hlatest, State.reopens_of_breaks ha hb⟩

def relay : List Happening := [
  .accepted, .arrived (.text "[0,null,1,\"CHANNEL_CREATE\"]"), .arrived (.text "[7]"),
  .accepted, .arrived .other, .arrived (.text "[0,null,2,\"CHANNEL_DELETE\"]"), .abandoned]

theorem relay_events_forwarded :
    let g : Settings := { url := "wss://gateway.discord.gg", token := "secret" }
    let late : Happening := .arrived (.text "[0,null,3,\"CHANNEL_CREATE\"]")
    (forwardedFrames (State.run g {} (relay ++ [late])).2).map (·.event) =
        [some "CHANNEL_CREATE", some "CHANNEL_DELETE"] ∧
      (State.run g {} (relay ++ [late])).1.result? = some (.ok ()) := by
  intro g late
  constructor
  · rw [(events_forwarded g (relay ++ [late])).1]
    decide +kernel
  · have hgoing : (State.run g {} relay).1.result? = none :=
      Option.isNone_iff_eq_none.mp (by decide +kernel)
    have hadmits : (State.run g {} relay).1.admits late = true := by decide +kernel
    have hbrings : late.Brings .dispatch := Happening.brings_iff.mpr (by decide +kernel)
    obtain ⟨hok, -⟩ := (events_forwarded g relay).2.2 hgoing late hadmits
    exact hok.mpr ⟨hbrings, by simp [relay]⟩

end Gateway

end DiscordBot
