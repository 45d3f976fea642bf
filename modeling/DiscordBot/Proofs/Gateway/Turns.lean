import DiscordBot.Proofs.Gateway.Past

/-! What one happening can do to a gateway. A connection is opened or ends, a greeting or a request is
answered, an event is handed on, or time goes by. -/

namespace DiscordBot

open Gateway (Ending Happening)
open Time (Instant)

def Frame.ending? (heard : Bool) (f : Frame) : Option Ending :=
  match f.op with
  | .dispatch => if heard then none else some .unheard
  | .reconnect => some (.asked true)
  | .invalidSession => some (.asked !f.invalidates)
  | _ => none

namespace Gateway

namespace Happening

def Brings (h : Happening) (op : OpCode) : Prop := ∃ f, h.frame? = some f ∧ f.op = op

def ending? (heard : Bool) : Happening → Option Ending
  | .refused | .arrived .fault | .arrived (.close none) => some .broken
  | .arrived (.close (some code)) => some (if isFatalClose code then .fatal code else .broken)
  | h => h.frame?.bind (Frame.ending? heard)

def abandons : Happening → Bool
  | .abandoned => true
  | _ => false

variable {h : Happening} {f : Frame} {heard : Bool} {op : OpCode}

lemma brings_iff : h.Brings op ↔ h.frame?.map (·.op) = some op :=
  Option.map_eq_some_iff.symm

lemma brings_of_frame (hf : h.frame? = some f) : h.Brings op ↔ f.op = op := by
  simp [brings_iff, hf]

lemma not_brings (hf : h.frame? = none) : ¬h.Brings op := by
  simp [brings_iff, hf]

lemma ending?_of_frame (hf : h.frame? = some f) : h.ending? heard = f.ending? heard := by
  cases h with
  | arrived message =>
    cases message with
    | text t => simp [ending?, hf]
    | _ => cases hf
  | _ => cases hf

lemma abandons_iff : h.abandons = true ↔ h = .abandoned := by
  cases h <;> simp [abandons]

end Happening

def Heartbeats.ofGreeting (t : Instant) (f : Frame) : Heartbeats :=
  let period := Time.Duration.ofMillis (heartbeatMillis f.data)
  ⟨t + period, period⟩

namespace State

inductive Turn (g : Settings) (s : State) : Happening → State × List Effect → Prop
  | opened {resume : Bool} {earliest : Instant} : s.phase = .connecting resume earliest →
      Turn g s .accepted
        ({ s with now := max s.now earliest, phase := .connected resume none },
          [.opens (g.address s.memory resume) resume (max s.now earliest)])
  | refused {resume : Bool} {earliest : Instant} : s.phase = .connecting resume earliest →
      Turn g s .refused
        (State.afterEnding g { s with now := max s.now earliest } .broken,
          [.opens (g.address s.memory resume) resume (max s.now earliest)])
  | ended {message : Incoming} {memory : Memory} {e : Ending} :
      (Happening.arrived message).ending? s.heard = some e →
      Turn g s (.arrived message) (State.afterEnding g { s with memory := memory } e, [])
  | greeted {message : Incoming} {f : Frame} {resume : Bool} {beats : Option Heartbeats} :
      s.phase = .connected resume beats → (Happening.arrived message).frame? = some f → f.op = .hello →
      Turn g s (.arrived message)
        ({ s with phase := .connected resume (some (.ofGreeting s.now f)) },
          [.sends (g.handshake s.memory resume) s.now])
  | noted {message : Incoming} {f : Frame} :
      (Happening.arrived message).frame? = some f → f.op = .dispatch → s.heard = true →
      Turn g s (.arrived message) ({ s with memory := s.memory.note f }, [.forwards f])
  | requested {message : Incoming} {f : Frame} :
      (Happening.arrived message).frame? = some f → f.op = .heartbeat →
      Turn g s (.arrived message) (s, [.sends (heartbeat s.memory.sequence) s.now])
  | ignored {message : Incoming} : (Happening.arrived message).ending? s.heard = none →
      (∀ op ∈ [OpCode.hello, .dispatch, .heartbeat], ¬(Happening.arrived message).Brings op) →
      Turn g s (.arrived message) (s, [])
  | passed {d : Time.Duration} : Turn g s (.elapsed d) (s.elapse d)
  | abandoned : Turn g s .abandoned ({ s with heard := false }, [])

variable {g : Settings} {s : State} {h : Happening}

lemma turn_takeFrame {message : Incoming} {f : Frame} {resume : Bool} {beats : Option Heartbeats}
    (hp : s.phase = .connected resume beats) (hf : (Happening.arrived message).frame? = some f) :
    s.Turn g (.arrived message) (s.takeFrame g resume f) := by
  have hending : (Happening.arrived message).ending? s.heard = f.ending? s.heard :=
    Happening.ending?_of_frame hf
  unfold takeFrame
  cases hop : f.op with
  | hello => exact .greeted hp hf hop
  | dispatch =>
    dsimp only
    split
    · next hheard => exact .noted hf hop hheard
    · next hheard =>
      have he : (Happening.arrived message).ending? s.heard = some .unheard := by
        rw [hending]
        simp [Frame.ending?, hop, hheard]
      exact .ended he
  | heartbeat => exact .requested hf hop
  | reconnect =>
    have he : (Happening.arrived message).ending? s.heard = some (.asked true) := by
      simp [hending, Frame.ending?, hop]
    exact .ended he
  | invalidSession =>
    have he : (Happening.arrived message).ending? s.heard = some (.asked !f.invalidates) := by
      simp [hending, Frame.ending?, hop]
    dsimp only
    split
    · next hd =>
      rw [show f.invalidates = false by simp [Frame.invalidates, hop, hd]] at he
      exact .ended he
    · next hd =>
      have hi : f.invalidates = true := by
        unfold Frame.invalidates
        split <;> simp_all
      rw [hi] at he
      exact .ended he
  | _ =>
    refine .ignored ?_ ?_
    · simp [hending, Frame.ending?, hop]
    · simp [Happening.brings_of_frame hf, hop]

lemma turn (ha : s.admits h = true) : s.Turn g h (s.step g h) := by
  cases h with
  | elapsed d => exact .passed
  | abandoned => exact .abandoned
  | accepted =>
    cases hp : s.phase with
    | connecting resume earliest =>
      simp only [step, hp]
      exact .opened hp
    | _ => simp [admits, hp] at ha
  | refused =>
    cases hp : s.phase with
    | connecting resume earliest =>
      simp only [step, hp]
      exact .refused hp
    | _ => simp [admits, hp] at ha
  | arrived message =>
    cases hp : s.phase with
    | connected resume beats =>
      simp only [step, hp]
      cases message with
      | text t =>
        cases ht : Frame.ofText? t with
        | some f =>
          simp only [take, ht]
          exact turn_takeFrame hp ht
        | none =>
          have hf : (Happening.arrived (.text t)).frame? = none := ht
          simp only [take, ht]
          exact .ignored (by simp [Happening.ending?, hf]) fun _ _ => Happening.not_brings hf
      | other => exact .ignored rfl fun _ _ => Happening.not_brings rfl
      | fault => exact .ended rfl
      | close code => cases code <;> exact .ended rfl
    | _ => simp [admits, hp] at ha

namespace Turn

variable {next : State × List Effect} {e : Ending}

lemma of_ending (ht : s.Turn g h next) (he : h.ending? s.heard = some e) :
    next.1.phase = (next.1.afterEnding g e).phase := by
  cases ht with
  | opened => cases he
  | refused =>
    cases he
    rfl
  | @ended _ _ e' he' =>
    obtain rfl := Option.some.inj (he'.symm.trans he)
    cases e' <;> rfl
  | greeted _ hf hop => simp [Happening.ending?_of_frame hf, Frame.ending?, hop] at he
  | noted hf hop hheard => simp [Happening.ending?_of_frame hf, Frame.ending?, hop, hheard] at he
  | requested hf hop => simp [Happening.ending?_of_frame hf, Frame.ending?, hop] at he
  | ignored he' => cases he'.symm.trans he
  | passed => cases he
  | abandoned => cases he

lemma goes_on (ht : s.Turn g h next) (he : h.ending? s.heard = none) :
    next.1.phase = s.phase ∨ ∃ resume beats, next.1.phase = .connected resume beats := by
  cases ht with
  | @opened resume => exact Or.inr ⟨resume, none, rfl⟩
  | refused => cases he
  | ended he' => cases he'.symm.trans he
  | @greeted _ _ resume => exact Or.inr ⟨resume, _, rfl⟩
  | @passed d =>
    cases hp : s.phase with
    | connected resume beats =>
      refine Or.inr ⟨resume, ?_⟩
      cases beats <;> simp [elapse, hp]
    | _ => exact Or.inl (by simp [elapse, hp])
  | _ => exact Or.inl rfl

lemma heard (ht : s.Turn g h next) : next.1.heard = (s.heard && !h.abandons) := by
  cases ht with
  | @ended _ _ e => cases e <;> simp [afterEnding, Happening.abandons]
  | passed =>
    unfold elapse
    dsimp only
    split <;> simp [Happening.abandons]
  | _ => simp [afterEnding, Happening.abandons]

end Turn

lemma step_heard : (s.step g h).1.heard = (s.heard && !h.abandons) := by
  cases ha : s.admits h with
  | true => exact (turn ha).heard
  | false =>
    have hkept : h.abandons = false := by cases h <;> simp_all [admits, Happening.abandons]
    simp [step_of_not_admits ha, hkept]

end State

end Gateway

end DiscordBot
