import DiscordBot.Gateway.Run
import Mathlib.Data.List.Induction

/-! The past of a gateway: all that has happened to it, the latest first. What it remembers, and whether
it opens a connection to resume, can be read off its past. -/

namespace DiscordBot

namespace Frame

def invalidates (f : Frame) : Bool :=
  match f.op, f.data with
  | .invalidSession, .bool true => false
  | .invalidSession, _ => true
  | _, _ => false

def beginsSession (f : Frame) : Bool := f.op == .dispatch && f.event == some "READY"

def eventSequence? (f : Frame) : Option UInt64 :=
  match f.op with
  | .dispatch => f.sequence
  | _ => none

end Frame

namespace Gateway

def Happening.frame? : Happening → Option Frame
  | .arrived (.text t) => Frame.ofText? t
  | _ => none

def frames (past : List Happening) : List Frame := past.filterMap Happening.frame?

def sessionFrames (past : List Happening) : List Frame :=
  (frames past).takeWhile fun f => !f.invalidates

def sessionText? (past : List Happening) (field : String) : Option String :=
  ((sessionFrames past).find? Frame.beginsSession).bind fun f => f.data.string? field

def recalled (past : List Happening) : Memory where
  sessionId := sessionText? past "session_id"
  resumeUrl := sessionText? past "resume_gateway_url"
  sequence := (sessionFrames past).findSome? Frame.eventSequence?

def opensToResume : List Happening → Bool
  | [] => false
  | .refused :: past | .arrived .fault :: past | .arrived (.close _) :: past =>
    (recalled past).sessionId.isSome
  | .arrived (.text t) :: past =>
    match Frame.ofText? t with
    | none => opensToResume past
    | some f =>
      match f.op, f.data with
      | .reconnect, _ => true
      | .invalidSession, .bool true => true
      | .invalidSession, _ => false
      | _, _ => opensToResume past
  | _ :: past => opensToResume past

def numberJson : Option UInt64 → Json
  | some n => .int n.toNat
  | none => .null

/-- The number of the latest event that had one and came since the session was last made invalid. -/
def latestNumber (past : List Happening) : Json :=
  numberJson ((sessionFrames past).findSome? Frame.eventSequence?)

section Recalled

variable {past : List Happening} {h : Happening} {f : Frame}

lemma recalled_of_no_frame (hf : h.frame? = none) : recalled (h :: past) = recalled past := by
  simp [recalled, sessionText?, sessionFrames, frames, hf]

lemma recalled_of_invalidates (hf : h.frame? = some f) (hi : f.invalidates = true) :
    recalled (h :: past) = {} := by
  simp [recalled, sessionText?, sessionFrames, frames, hf, hi]

lemma invalidates_of_op (hop : f.op ≠ .invalidSession) : f.invalidates = false := by
  unfold Frame.invalidates
  split <;> simp_all

lemma recalled_of_other (hf : h.frame? = some f) (hi : f.invalidates = false) (hop : f.op ≠ .dispatch) :
    recalled (h :: past) = recalled past := by
  have hbegins : f.beginsSession = false := by simp [Frame.beginsSession, hop]
  have hsequence : f.eventSequence? = none := by
    unfold Frame.eventSequence?
    split
    · exact absurd ‹_› hop
    · rfl
  simp [recalled, sessionText?, sessionFrames, frames, hf, hi, hbegins, hsequence]

lemma recalled_of_dispatch (hf : h.frame? = some f) (hop : f.op = .dispatch) :
    recalled (h :: past) = (recalled past).note f := by
  have hi : f.invalidates = false := invalidates_of_op (by simp [hop])
  have hsequence : f.eventSequence? = f.sequence := by simp [Frame.eventSequence?, hop]
  have hnext : (sessionFrames (h :: past)).findSome? Frame.eventSequence? =
      f.sequence.or ((sessionFrames past).findSome? Frame.eventSequence?) := by
    simp only [sessionFrames, frames, List.filterMap_cons, hf, hi, List.takeWhile_cons, Bool.not_false,
      if_true, List.findSome?_cons, hsequence]
    cases f.sequence <;> rfl
  have hfind : (sessionFrames (h :: past)).find? Frame.beginsSession =
      if f.event == some "READY" then some f else (sessionFrames past).find? Frame.beginsSession := by
    simp only [sessionFrames, frames, List.filterMap_cons, hf, hi, List.takeWhile_cons, Bool.not_false,
      if_true, List.find?_cons, Frame.beginsSession, hop, beq_self_eq_true, Bool.true_and]
    cases f.event == some "READY" <;> rfl
  simp only [recalled, sessionText?, Memory.note, hnext, hfind]
  split <;> rfl

end Recalled

namespace State

def admits (s : State) (h : Happening) : Bool :=
  match h, s.phase with
  | .accepted, .connecting .. | .refused, .connecting .. | .arrived _, .connected .. => true
  | .elapsed _, _ | .abandoned, _ => true
  | _, _ => false

def happened (g : Settings) : State → List Happening → List Happening
  | _, [] => []
  | s, h :: hs =>
    let later := happened g (s.step g h).1 hs
    if s.admits h then h :: later else later

variable {g : Settings} {s : State} {h : Happening} {hs ks : List Happening}

lemma step_of_not_admits (ha : s.admits h = false) : s.step g h = (s, []) := by
  obtain ⟨memory, phase, now, heard⟩ := s
  cases h <;> cases phase <;> simp_all [admits, step]

lemma run_append :
    State.run g s (hs ++ ks) = ((State.run g (State.run g s hs).1 ks).1,
      (State.run g s hs).2 ++ (State.run g (State.run g s hs).1 ks).2) := by
  induction hs generalizing s with
  | nil => rfl
  | cons h hs ih => simp only [List.cons_append, State.run, ih, List.append_assoc]

lemma run_concat : State.run g s (hs ++ [h]) = (((State.run g s hs).1.step g h).1,
    (State.run g s hs).2 ++ ((State.run g s hs).1.step g h).2) := by
  rw [run_append]
  simp [State.run]

lemma happened_append : happened g s (hs ++ ks) = happened g s hs ++ happened g (State.run g s hs).1 ks := by
  induction hs generalizing s with
  | nil => rfl
  | cons h hs ih =>
    simp only [List.cons_append, happened, State.run, ih]
    split <;> rfl

end State

def past (g : Settings) (hs : List Happening) : List Happening := (State.happened g {} hs).reverse

lemma past_concat {g : Settings} {hs : List Happening} {h : Happening} :
    past g (hs ++ [h]) =
      if (State.run g {} hs).1.admits h then h :: past g hs else past g hs := by
  unfold past
  rw [State.happened_append, List.reverse_append]
  simp only [State.happened]
  split <;> rfl

def Phase.resume? : Phase → Option Bool
  | .connecting resume _ | .connected resume _ => some resume
  | .finished _ => none

structure State.Recalls (s : State) (past : List Happening) : Prop where
  memory : s.memory = recalled past
  resume : ∀ resume ∈ s.phase.resume?, resume = opensToResume past

section Step

variable {g : Settings} {s : State} {past : List Happening} {h : Happening} {f : Frame} {t : String}
  {resume : Bool}

lemma opensToResume_of_frame (ht : Frame.ofText? t = some f) (hr : f.op ≠ .reconnect)
    (hi : f.op ≠ .invalidSession) :
    opensToResume (.arrived (.text t) :: past) = opensToResume past := by
  rw [opensToResume, ht]
  dsimp only
  split
  · exact absurd ‹_› hr
  · exact absurd ‹_› hi
  · exact absurd ‹_› hi
  · rfl

lemma State.Recalls.idle {s' : State} (hr : s.Recalls past) (hf : h.frame? = none)
    (hopens : opensToResume (h :: past) = opensToResume past) (hm : s'.memory = s.memory)
    (hp : s'.phase.resume? = s.phase.resume?) : s'.Recalls (h :: past) where
  memory := by rw [recalled_of_no_frame hf, hm, hr.memory]
  resume := by
    rw [hopens, hp]
    exact hr.resume

lemma State.Recalls.broken (hr : s.Recalls past) (hf : h.frame? = none)
    (hopens : opensToResume (h :: past) = (recalled past).sessionId.isSome) :
    (s.afterEnding g .broken).Recalls (h :: past) where
  memory := by
    rw [recalled_of_no_frame hf]
    exact hr.memory
  resume r h := by
    rw [hopens, ← hr.memory]
    exact (Option.some.inj h).symm

lemma State.Recalls.takeFrame (hr : s.Recalls past) (hp : s.phase.resume? = some resume)
    (ht : Frame.ofText? t = some f) :
    (s.takeFrame g resume f).1.Recalls (.arrived (.text t) :: past) := by
  have hf : (Happening.arrived (.text t)).frame? = some f := ht
  have hresume : resume = opensToResume past := hr.resume resume (by simp [hp])
  -- The other frames change neither the memory nor what the connection was opened for.
  have hother : ∀ s' : State, f.op ≠ .dispatch → f.op ≠ .reconnect → f.op ≠ .invalidSession →
      s'.memory = s.memory → s'.phase.resume? = some resume →
        s'.Recalls (.arrived (.text t) :: past) := by
    intro s' hd hre hi hm hp'
    refine ⟨?_, fun r h => ?_⟩
    · rw [recalled_of_other hf (invalidates_of_op hi) hd, hm, hr.memory]
    · rw [opensToResume_of_frame ht hre hi, ← hresume]
      exact (Option.some.inj (hp'.symm.trans h)).symm
  have hkept : f.op ≠ .dispatch → f.op ≠ .invalidSession →
      s.memory = recalled (.arrived (.text t) :: past) := fun hd hi => by
    rw [recalled_of_other hf (invalidates_of_op hi) hd, hr.memory]
  unfold State.takeFrame
  cases hop : f.op with
  | hello => exact hother _ (by simp [hop]) (by simp [hop]) (by simp [hop]) rfl rfl
  | dispatch =>
    have hm : s.memory.note f = recalled (.arrived (.text t) :: past) := by
      rw [recalled_of_dispatch hf hop, hr.memory]
    have hopens : opensToResume (.arrived (.text t) :: past) = resume := by
      rw [opensToResume_of_frame ht (by simp [hop]) (by simp [hop]), hresume]
    dsimp only
    split
    · refine ⟨hm, fun r h => ?_⟩
      rw [hopens]
      exact (Option.some.inj (hp.symm.trans h)).symm
    · exact ⟨hm, nofun⟩
  | reconnect =>
    refine ⟨hkept (by simp [hop]) (by simp [hop]), fun r h => ?_⟩
    simp only [opensToResume, ht, hop]
    exact (Option.some.inj h).symm
  | invalidSession =>
    dsimp only
    split
    · rename_i hd
      refine ⟨?_, fun r h => ?_⟩
      · rw [recalled_of_other hf (by simp [Frame.invalidates, hop, hd]) (by simp [hop])]
        exact hr.memory
      · simp only [opensToResume, ht, hop, hd]
        exact (Option.some.inj h).symm
    · rename_i hd
      refine ⟨?_, fun r h => ?_⟩
      · rw [recalled_of_invalidates hf]
        · rfl
        · unfold Frame.invalidates
          split <;> simp_all
      · rw [opensToResume, ht]
        dsimp only
        split <;> simp_all [State.afterEnding, Phase.resume?]
  | _ => exact hother _ (by simp [hop]) (by simp [hop]) (by simp [hop]) rfl hp

lemma State.Recalls.take (hr : s.Recalls past) (hp : s.phase.resume? = some resume)
    (message : Incoming) : (s.take g resume message).1.Recalls (.arrived message :: past) := by
  cases message with
  | text t =>
    cases ht : Frame.ofText? t with
    | none =>
      simp only [State.take, ht]
      exact hr.idle ht (by simp only [opensToResume, ht]) rfl rfl
    | some f =>
      simp only [State.take, ht]
      exact hr.takeFrame hp ht
  | other => exact hr.idle rfl rfl rfl rfl
  | fault => exact hr.broken rfl rfl
  | close code =>
    cases code with
    | none => exact hr.broken rfl rfl
    | some code =>
      simp only [State.take]
      split
      · exact ⟨hr.memory, nofun⟩
      · exact hr.broken rfl rfl

lemma State.Recalls.elapse (hr : s.Recalls past) (d : Time.Duration) :
    (s.elapse d).1.Recalls (.elapsed d :: past) := by
  unfold State.elapse
  dsimp only
  split
  · rename_i hphase
    exact hr.idle rfl rfl rfl (by rw [hphase]; rfl)
  · exact hr.idle rfl rfl rfl rfl

lemma State.Recalls.step (hr : s.Recalls past) (ha : s.admits h = true) :
    (s.step g h).1.Recalls (h :: past) := by
  cases h with
  | elapsed d => exact hr.elapse d
  | abandoned => exact hr.idle rfl rfl rfl rfl
  | accepted =>
    cases hp : s.phase with
    | connecting resume earliest =>
      simp only [State.step, hp]
      exact hr.idle rfl rfl rfl (by rw [hp]; rfl)
    | _ => simp [State.admits, hp] at ha
  | refused =>
    cases hp : s.phase with
    | connecting resume earliest =>
      simp only [State.step, hp]
      exact State.Recalls.broken (s := { s with now := _ }) ⟨hr.memory, hr.resume⟩ rfl rfl
    | _ => simp [State.admits, hp] at ha
  | arrived message =>
    cases hp : s.phase with
    | connected resume heartbeats =>
      simp only [State.step, hp]
      exact hr.take (by rw [hp]; rfl) message
    | _ => simp [State.admits, hp] at ha

end Step

/-- Whatever happens, what the gateway remembers is what its past tells. -/
theorem recalls_past (g : Settings) (hs : List Happening) : (State.run g {} hs).1.Recalls (past g hs) := by
  induction hs using List.reverseRecOn with
  | nil => exact ⟨rfl, fun r h => (Option.some.inj h).symm⟩
  | append_singleton hs h ih =>
    rw [State.run_concat, past_concat]
    split
    · exact ih.step ‹_›
    · rename_i hidle
      rw [State.step_of_not_admits (Bool.eq_false_iff.mpr hidle)]
      exact ih

end Gateway

end DiscordBot
