import DiscordBot.Gateway.Session

/-! The run of a gateway over all its connections. It goes from state to state with what happens around
it, and takes its steps in return. -/

namespace DiscordBot.Gateway

open Time (Instant)

inductive Incoming where
  | text (s : String)
  | other
  | close (code : Option Nat)
  | fault

inductive Happening where
  | accepted
  | refused
  | arrived (message : Incoming)
  | elapsed (d : Time.Duration)
  | abandoned

inductive Effect where
  | opens (url : String) (resume : Bool) (atTime : Instant)
  | sends (frame : Frame) (atTime : Instant)
  | forwards (frame : Frame)

def sentFrames (es : List Effect) : List Frame :=
  es.filterMap fun
    | .sends f _ => some f
    | _ => none

def forwardedFrames (es : List Effect) : List Frame :=
  es.filterMap fun
    | .forwards f => some f
    | _ => none

def openings (es : List Effect) : List (String × Instant) :=
  es.filterMap fun
    | .opens url _ t => some (url, t)
    | _ => none

structure Heartbeats where
  next : Instant
  period : Time.Duration
  deriving DecidableEq, Repr

inductive Phase where
  | connecting (resume : Bool) (earliest : Instant)
  | connected (resume : Bool) (heartbeats : Option Heartbeats)
  | finished (result : Except BotError Unit)

structure State where
  memory : Memory := {}
  phase : Phase := .connecting false 0
  now : Instant := 0
  heard : Bool := true

namespace Heartbeats

def dueBy (h : Heartbeats) (t : Instant) : Nat :=
  if t < h.next then 0 else (t - h.next) / h.period + 1

def instants (h : Heartbeats) (t : Instant) : List Instant :=
  (List.range (h.dueBy t)).map fun k => h.next + k * h.period

def after (h : Heartbeats) (t : Instant) : Heartbeats :=
  { h with next := h.next + h.dueBy t * h.period }

end Heartbeats

inductive Ending where
  | asked (resume : Bool)
  | unheard
  | fatal (code : Nat)
  | broken

namespace State

def afterEnding (g : Settings) (s : State) : Ending → State
  | .asked resume => { s with phase := .connecting resume s.now }
  | .unheard => { s with phase := .finished (.ok ()) }
  | .fatal code =>
    { s with phase := .finished (.error (.gateway ("closed with fatal code " ++ toString code))) }
  | .broken =>
    let earliest := Time.Duration.nextTick (s.now + g.reconnectDelay)
    { s with phase := .connecting s.memory.sessionId.isSome earliest }

def takeFrame (g : Settings) (s : State) (resume : Bool) (f : Frame) : State × List Effect :=
  match f.op with
  | .hello =>
    let period := Time.Duration.ofMillis (heartbeatMillis f.data)
    ({ s with phase := .connected resume (some ⟨s.now + period, period⟩) },
      [.sends (g.handshake s.memory resume) s.now])
  | .dispatch =>
    let s := { s with memory := s.memory.note f }
    if s.heard then (s, [.forwards f]) else (s.afterEnding g .unheard, [])
  | .heartbeat => (s, [.sends (Gateway.heartbeat s.memory.sequence) s.now])
  | .reconnect => (s.afterEnding g (.asked true), [])
  | .invalidSession =>
    match f.data with
    | .bool true => (s.afterEnding g (.asked true), [])
    | _ =>
      let s := { s with memory := {} }
      (s.afterEnding g (.asked false), [])
  | _ => (s, [])

def take (g : Settings) (s : State) (resume : Bool) : Incoming → State × List Effect
  -- A text that is no frame is passed over.
  | .text t =>
    match Frame.ofText? t with
    | some f => s.takeFrame g resume f
    | none => (s, [])
  | .other => (s, [])
  | .close (some code) =>
    (s.afterEnding g (if isFatalClose code then .fatal code else .broken), [])
  | .close none | .fault => (s.afterEnding g .broken, [])

def elapse (s : State) (d : Time.Duration) : State × List Effect :=
  let now := s.now + d
  match s.phase with
  | .connected resume (some h) =>
    ({ s with now := now, phase := .connected resume (some (h.after now)) },
      (h.instants now).map (.sends (Gateway.heartbeat s.memory.sequence)))
  | _ => ({ s with now := now }, [])

def step (g : Settings) (s : State) : Happening → State × List Effect
  | .accepted =>
    match s.phase with
    | .connecting resume earliest =>
      let now := max s.now earliest
      ({ s with now := now, phase := .connected resume none },
        [.opens (g.address s.memory resume) resume now])
    | _ => (s, [])
  | .refused =>
    match s.phase with
    | .connecting resume earliest =>
      let now := max s.now earliest
      let opened := Effect.opens (g.address s.memory resume) resume now
      (State.afterEnding g { s with now := now } .broken, [opened])
    | _ => (s, [])
  | .arrived message =>
    match s.phase with
    | .connected resume _ => s.take g resume message
    | _ => (s, [])
  | .elapsed d => s.elapse d
  | .abandoned => ({ s with heard := false }, [])

def run (g : Settings) : State → List Happening → State × List Effect
  | s, [] => (s, [])
  | s, h :: hs =>
    let (s, effects) := s.step g h
    let (s, more) := run g s hs
    (s, effects ++ more)

def result? (s : State) : Option (Except BotError Unit) :=
  match s.phase with
  | .finished r => some r
  | _ => none

end State

end DiscordBot.Gateway
