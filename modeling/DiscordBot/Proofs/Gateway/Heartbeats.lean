import DiscordBot.Proofs.Gateway.Handshake
import DiscordBot.Proofs.Gateway.Turns
import Mathlib.Data.List.Sort
import Mathlib.Tactic.Ring

/-! When heartbeats are sent and what they carry. Those of a schedule follow the latest greeting of the
connection at whole multiples of its interval; each request for one is answered with one. -/

namespace DiscordBot

open Gateway (defaultHeartbeatMillis heartbeatMillis)
open Time (Instant)

def Frame.heartbeatInterval (f : Frame) : Time.Duration :=
  .ofMillis (((f.data.nat? "heartbeat_interval").filter (0 < ·)).getD defaultHeartbeatMillis)

lemma heartbeatInterval_eq (f : Frame) :
    f.heartbeatInterval = .ofMillis (heartbeatMillis f.data) := by
  unfold Frame.heartbeatInterval heartbeatMillis
  split
  · next n hn => simp [hn, Option.filter]
  · next hn =>
    cases h : f.data.nat? "heartbeat_interval" with
    | none => rfl
    | some n =>
      cases n with
      | zero => rfl
      | succ n => exact absurd h (hn n)

lemma heartbeatInterval_pos (f : Frame) : 0 < f.heartbeatInterval := by
  have hmillis : 0 < heartbeatMillis f.data := by
    unfold heartbeatMillis
    split
    · exact Nat.succ_pos _
    · decide
  rw [heartbeatInterval_eq]
  exact Nat.mul_pos hmillis (by decide)

namespace Gateway

namespace Heartbeats

variable {b : Heartbeats} {t : Instant} {k : Nat}

lemma lt_dueBy (hb : 0 < b.period) : k < b.dueBy t ↔ b.next + k * b.period ≤ t := by
  unfold dueBy
  split
  · next ht =>
    have hle : b.next ≤ b.next + k * b.period := Nat.le_add_right _ _
    constructor
    · intro hk
      exact absurd hk (Nat.not_lt_zero k)
    · intro hk
      exact absurd (hle.trans hk) (Nat.not_le.mpr ht)
  · next ht =>
    have hnext : b.next ≤ t := Nat.not_lt.mp ht
    rw [Nat.lt_succ_iff, Nat.le_div_iff_mul_le hb]
    exact (Nat.le_sub_iff_add_le' hnext)

/-- A schedule that began at a time: the next heartbeat is the first multiple of the period that is still
to come. -/
structure Follows (b : Heartbeats) (start now : Instant) : Prop where
  pos : 0 < b.period
  next : ∃ n : Nat, b.next = start + (n + 1) * b.period ∧ start + n * b.period ≤ now
  later : now < b.next

variable {start now : Instant}

lemma Follows.after (h : b.Follows start now) (ht : now ≤ t) : (b.after t).Follows start t where
  pos := h.pos
  next := by
    obtain ⟨n, hnext, hn⟩ := h.next
    refine ⟨n + b.dueBy t, ?_, ?_⟩
    · change b.next + b.dueBy t * b.period = start + (n + b.dueBy t + 1) * b.period
      rw [hnext]
      ring
    · change start + (n + b.dueBy t) * b.period ≤ t
      cases hdue : b.dueBy t with
      | zero => exact hn.trans ht
      | succ m =>
        have hm : b.next + m * b.period ≤ t := (lt_dueBy h.pos).mp (by omega)
        calc start + (n + (m + 1)) * b.period = b.next + m * b.period := by
              rw [hnext]
              ring
          _ ≤ t := hm
  later := by
    have hnot : ¬ b.next + b.dueBy t * b.period ≤ t := fun hle =>
      absurd ((lt_dueBy h.pos).mpr hle) (Nat.lt_irrefl _)
    exact Nat.not_le.mp hnot

lemma Follows.mem_instants (h : b.Follows start now) {x : Instant} :
    x ∈ b.instants t ↔ ∃ k : Nat, 1 ≤ k ∧ x = start + k * b.period ∧ now < x ∧ x ≤ t := by
  obtain ⟨n, hnext, hn⟩ := h.next
  have hshift : ∀ m : Nat, b.next + m * b.period = start + (n + 1 + m) * b.period := by
    intro m
    rw [hnext]
    ring
  simp only [instants, List.mem_map, List.mem_range, lt_dueBy h.pos]
  constructor
  · rintro ⟨m, hm, rfl⟩
    exact ⟨n + 1 + m, by omega, hshift m, h.later.trans_le (Nat.le_add_right _ _), hm⟩
  · rintro ⟨k, -, rfl, hlater, hle⟩
    have hk : n < k := by
      by_contra hkn
      have hmul : start + k * b.period ≤ start + n * b.period :=
        Nat.add_le_add_left (Nat.mul_le_mul_right _ (Nat.not_lt.mp hkn)) _
      exact absurd (hmul.trans hn) (Nat.not_le.mpr hlater)
    obtain ⟨m, rfl⟩ := Nat.exists_eq_add_of_le hk
    exact ⟨m, by rwa [hshift], hshift m⟩

lemma pairwise_instants (hb : 0 < b.period) : (b.instants t).Pairwise (· < ·) := by
  refine List.pairwise_map.mpr (List.pairwise_lt_range.imp fun {i j} hij => ?_)
  exact Nat.add_lt_add_left (Nat.mul_lt_mul_of_pos_right hij hb) _

end Heartbeats

def State.dated (g : Settings) : State → List Happening → List (Instant × Happening)
  | _, [] => []
  | s, h :: hs =>
    let later := dated g (s.step g h).1 hs
    if s.admits h then (s.now, h) :: later else later

def datedPast (g : Settings) (hs : List Happening) : List (Instant × Happening) :=
  (State.dated g {} hs).reverse

def greeting? : List (Instant × Happening) → Option (Instant × Frame)
  | [] => none
  | (t, h) :: past =>
    if (h.ending? (past.all fun k => !k.2.abandons)).isSome then none
    else
      match h.frame? with
      | some f => if f.op == .hello then some (t, f) else greeting? past
      | none => greeting? past

section Past

variable {g : Settings} {s : State} {h : Happening} {hs ks : List Happening} {t : Instant} {f : Frame}
  {past : List (Instant × Happening)}

lemma dated_append : State.dated g s (hs ++ ks) =
    State.dated g s hs ++ State.dated g (State.run g s hs).1 ks := by
  induction hs generalizing s with
  | nil => rfl
  | cons h hs ih =>
    simp only [List.cons_append, State.dated, State.run, ih]
    split <;> rfl

lemma datedPast_concat : datedPast g (hs ++ [h]) =
    if (State.run g {} hs).1.admits h then ((State.run g {} hs).1.now, h) :: datedPast g hs
    else datedPast g hs := by
  unfold datedPast
  rw [dated_append, List.reverse_append]
  simp only [State.dated]
  split <;> rfl

lemma greeting?_of_ending {e : Ending} (he : h.ending? (past.all fun k => !k.2.abandons) = some e) :
    greeting? ((t, h) :: past) = none := by
  simp [greeting?, he]

lemma greeting?_of_hello (he : h.ending? (past.all fun k => !k.2.abandons) = none)
    (hf : h.frame? = some f) (hop : f.op = .hello) : greeting? ((t, h) :: past) = some (t, f) := by
  simp [greeting?, he, hf, hop]

lemma greeting?_of_other (he : h.ending? (past.all fun k => !k.2.abandons) = none)
    (hother : ¬h.Brings .hello) : greeting? ((t, h) :: past) = greeting? past := by
  cases hf : h.frame? with
  | none => simp [greeting?, he, hf]
  | some f =>
    have hop : f.op ≠ .hello := fun hop => hother ⟨f, hf, hop⟩
    simp [greeting?, he, hf, hop]

end Past

def Phase.heartbeats? : Phase → Option Heartbeats
  | .connected _ b => b
  | _ => none

def Heartbeats.Answers (now : Instant) (b : Heartbeats) (greeting : Instant × Frame) : Prop :=
  b.period = greeting.2.heartbeatInterval ∧ b.Follows greeting.1 now

structure State.Beats (s : State) (past : List (Instant × Happening)) : Prop where
  heard : s.heard = past.all fun k => !k.2.abandons
  schedule : Option.Rel (Heartbeats.Answers s.now) s.phase.heartbeats? (greeting? past)

section Step

variable {g : Settings} {s s' : State} {h : Happening} {past : List (Instant × Happening)}

lemma heartbeats?_afterEnding {e : Ending} : (s.afterEnding g e).phase.heartbeats? = none := by
  cases e <;> rfl

lemma elapse_eq {d : Time.Duration} :
    (s.elapse d).1.now = s.now + d ∧
      (s.elapse d).1.phase.heartbeats? = s.phase.heartbeats?.map (·.after (s.now + d)) ∧
      (s.elapse d).2 = (s.phase.heartbeats?.toList.flatMap (·.instants (s.now + d))).map
        (.sends (heartbeat s.memory.sequence)) := by
  cases hp : s.phase with
  | connected resume beats => cases beats <;> simp [State.elapse, hp, Phase.heartbeats?]
  | _ => simp [State.elapse, hp, Phase.heartbeats?]

lemma answers_ofGreeting {t : Instant} {f : Frame} :
    (Heartbeats.ofGreeting t f).Answers t (t, f) := by
  have hpos := heartbeatInterval_pos f
  rw [heartbeatInterval_eq] at hpos
  exact ⟨(heartbeatInterval_eq f).symm, hpos, ⟨0, by simp [Heartbeats.ofGreeting], by simp⟩,
    Nat.lt_add_of_pos_right hpos⟩

lemma answers_after {beats : Option Heartbeats} {greeting : Option (Instant × Frame)} {now t : Instant}
    (h : Option.Rel (Heartbeats.Answers now) beats greeting) (ht : now ≤ t) :
    Option.Rel (Heartbeats.Answers t) (beats.map (·.after t)) greeting := by
  cases h with
  | none => exact .none
  | some hanswers => exact .some ⟨hanswers.1, hanswers.2.after ht⟩

namespace State.Beats

lemma ended {e : Ending} (hb : s.Beats past) (he : h.ending? s.heard = some e)
    (hheard : s'.heard = ((s.now, h) :: past).all fun k => !k.2.abandons)
    (hphase : s'.phase.heartbeats? = none) : s'.Beats ((s.now, h) :: past) where
  heard := hheard
  schedule := by
    rw [hphase, greeting?_of_ending (hb.heard ▸ he)]
    exact .none

lemma keep (hb : s.Beats past) (he : h.ending? s.heard = none) (hother : ¬h.Brings .hello)
    (hheard : s'.heard = ((s.now, h) :: past).all fun k => !k.2.abandons)
    (hschedule : Option.Rel (Heartbeats.Answers s.now) s.phase.heartbeats? (greeting? past) →
      Option.Rel (Heartbeats.Answers s'.now) s'.phase.heartbeats? (greeting? past)) :
    s'.Beats ((s.now, h) :: past) where
  heard := hheard
  schedule := by
    rw [greeting?_of_other (hb.heard ▸ he) hother]
    exact hschedule hb.schedule

lemma elapse {d : Time.Duration} (hb : s.Beats past)
    (hheard : (s.elapse d).1.heard = ((s.now, .elapsed d) :: past).all fun k => !k.2.abandons) :
    (s.elapse d).1.Beats ((s.now, .elapsed d) :: past) := by
  obtain ⟨hnow, hbeats, -⟩ := elapse_eq (s := s) (d := d)
  refine hb.keep rfl (Happening.not_brings rfl) hheard ?_
  rw [hnow, hbeats]
  exact fun hschedule => answers_after hschedule (Nat.le_add_right _ _)

lemma turn {next : State × List Effect} (hb : s.Beats past) (ht : s.Turn g h next) :
    next.1.Beats ((s.now, h) :: past) := by
  have hheard : next.1.heard = ((s.now, h) :: past).all fun k => !k.2.abandons := by
    rw [ht.heard, hb.heard, List.all_cons, Bool.and_comm]
  cases ht with
  | opened hp =>
    refine hb.keep rfl (Happening.not_brings rfl) hheard ?_
    rw [hp]
    generalize greeting? past = greeting
    intro hschedule
    cases (hschedule : Option.Rel _ none greeting)
    exact .none
  | refused => exact hb.ended rfl hheard heartbeats?_afterEnding
  | ended he => exact hb.ended he hheard heartbeats?_afterEnding
  | greeted hp hf hop =>
    refine ⟨hheard, ?_⟩
    rw [greeting?_of_hello _ hf hop]
    · exact .some answers_ofGreeting
    · simp [Happening.ending?_of_frame hf, Frame.ending?, hop]
  | noted hf hop hlistens =>
    refine hb.keep ?_ (by simp [Happening.brings_of_frame hf, hop]) hheard id
    simp [Happening.ending?_of_frame hf, Frame.ending?, hop, hlistens]
  | requested hf hop =>
    refine hb.keep ?_ (by simp [Happening.brings_of_frame hf, hop]) hheard id
    simp [Happening.ending?_of_frame hf, Frame.ending?, hop]
  | ignored he hother => exact hb.keep he (hother _ (by simp)) hheard id
  | passed => exact hb.elapse hheard
  | abandoned =>
    exact hb.keep rfl (Happening.not_brings rfl) hheard id

end State.Beats

end Step

theorem beats_past (g : Settings) (hs : List Happening) :
    (State.run g {} hs).1.Beats (datedPast g hs) := by
  induction hs using List.reverseRecOn with
  | nil => exact ⟨rfl, .none⟩
  | append_singleton hs h ih =>
    rw [State.run_concat, datedPast_concat]
    split
    · have hbeats := ih.turn (State.turn (g := g) ‹_›)
      exact hbeats
    · rename_i hidle
      rw [State.step_of_not_admits (Bool.eq_false_iff.mpr hidle)]
      exact ih

lemma State.Beats.mem_due {s : State} {past : List (Instant × Happening)} (hb : s.Beats past)
    (last : Instant) :
    let times := s.phase.heartbeats?.toList.flatMap (·.instants last)
    times.Pairwise (· < ·) ∧
      ∀ t, t ∈ times ↔ ∃ greeted f, ∃ k : Nat, greeting? past = some (greeted, f) ∧
        1 ≤ k ∧ t = greeted + k * f.heartbeatInterval ∧ s.now < t ∧ t ≤ last := by
  have hschedule := hb.schedule
  generalize s.phase.heartbeats? = beats at hschedule ⊢
  generalize greeting? past = greeting at hschedule ⊢
  cases hschedule with
  | none => simp
  | @some b greeting hanswers =>
    obtain ⟨hperiod, hfollows⟩ := hanswers
    simp only [Option.toList_some, List.flatMap_cons, List.flatMap_nil, List.append_nil]
    refine ⟨Heartbeats.pairwise_instants hfollows.pos, fun t => ?_⟩
    rw [hfollows.mem_instants, hperiod]
    constructor
    · rintro ⟨k, hk⟩
      exact ⟨greeting.1, greeting.2, k, rfl, hk⟩
    · rintro ⟨_, _, k, hsame, hk⟩
      obtain rfl := Option.some.inj hsame
      exact ⟨k, hk⟩

section Sent

variable {g : Settings} {s : State} {h : Happening} {next : State × List Effect}

lemma turn_requested (ht : s.Turn g h next) (hr : h.Brings .heartbeat) :
    next.2 = [.sends (heartbeat s.memory.sequence) s.now] := by
  cases ht with
  | ended he =>
    obtain ⟨f, hf, hop⟩ := hr
    simp [Happening.ending?_of_frame hf, Frame.ending?, hop] at he
  | greeted _ hf hop => simp [Happening.brings_of_frame hf, hop] at hr
  | noted hf hop => simp [Happening.brings_of_frame hf, hop] at hr
  | requested => rfl
  | ignored _ hother => exact absurd hr (hother _ (by simp))
  | _ => exact absurd hr (Happening.not_brings rfl)

lemma sent_of_not_requested {sent : Frame} (ht : s.Turn g h next) (hr : ¬h.Brings .heartbeat)
    (he : ∀ d, h ≠ .elapsed d) (hsent : sent ∈ sentFrames next.2) : sent.op ≠ .heartbeat := by
  cases ht with
  | @greeted _ f resume =>
    obtain rfl : sent = g.handshake s.memory resume := by simpa [sentFrames] using hsent
    rcases handshake_cases g s.memory resume with ⟨hreply, -⟩ | ⟨id, hreply, -⟩ <;>
      simp [hreply, Settings.identify, Settings.resumption, Frame.ofOp]
  | requested hf hop => exact absurd ⟨_, hf, hop⟩ hr
  | passed => exact absurd rfl (he _)
  | _ => simp [sentFrames] at hsent

end Sent

lemma heartbeat_eq (sequence : Option UInt64) :
    heartbeat sequence = ⟨.heartbeat, numberJson sequence, none, none⟩ := by
  cases sequence <;> rfl

/-- Each request for a heartbeat is answered with one, and as time goes by one is sent at each whole
multiple of the interval after the latest greeting of the connection. Nothing else is sent as a heartbeat.
All carry the number of the latest event that had one and that came since the session was last made
invalid. -/
theorem heartbeats_due (g : Settings) (hs : List Happening) (h : Happening) :
    let s := (State.run g {} hs).1
    let beat : Frame := ⟨.heartbeat, latestNumber (past g hs), none, none⟩
    (s.admits h = true ∧ h.Brings .heartbeat →
      (State.run g {} (hs ++ [h])).2 = (State.run g {} hs).2 ++ [.sends beat s.now]) ∧
    (∀ d, h = .elapsed d → ∃ times : List Instant,
      (State.run g {} (hs ++ [h])).2 = (State.run g {} hs).2 ++ times.map (.sends beat) ∧
      times.Pairwise (· < ·) ∧
      ∀ t, t ∈ times ↔ ∃ greeted f, ∃ k : Nat, greeting? (datedPast g hs) = some (greeted, f) ∧
        1 ≤ k ∧ t = greeted + k * f.heartbeatInterval ∧ s.now < t ∧ t ≤ s.now + d) ∧
    (¬(s.admits h = true ∧ h.Brings .heartbeat) → (∀ d, h ≠ .elapsed d) →
      (State.run g {} (hs ++ [h])).2 = (State.run g {} hs).2 ++ (s.step g h).2 ∧
        ∀ f ∈ sentFrames (s.step g h).2, f.op ≠ .heartbeat) := by
  intro s beat
  have hbeat : heartbeat s.memory.sequence = beat := by
    have hsequence : s.memory.sequence = (sessionFrames (past g hs)).findSome? Frame.eventSequence? :=
      congrArg Memory.sequence (recalls_past g hs).memory
    rw [heartbeat_eq, hsequence]
    rfl
  refine ⟨?_, ?_, ?_⟩
  · rintro ⟨ha, hr⟩
    rw [State.run_concat, turn_requested (State.turn ha) hr, hbeat]
  · rintro d rfl
    -- The schedule is the one that the latest greeting asks for, by the invariant `Beats`.
    obtain ⟨-, -, hsent⟩ := elapse_eq (s := s) (d := d)
    have hrun : (State.run g {} (hs ++ [.elapsed d])).2 = (State.run g {} hs).2 ++ (s.elapse d).2 := by
      rw [State.run_concat]
      rfl
    exact ⟨_, by rw [hrun, hsent, hbeat], (beats_past g hs).mem_due (s.now + d)⟩
  · intro hr he
    refine ⟨by rw [State.run_concat], fun f hf => ?_⟩
    cases ha : s.admits h with
    | true => exact sent_of_not_requested (State.turn ha) (fun hb => hr ⟨ha, hb⟩) he hf
    | false =>
      rw [State.step_of_not_admits ha] at hf
      cases hf

def steady : List Happening := [
  .accepted, .arrived (.text "[10,\x7b\"heartbeat_interval\":1000\x7d]"),
  .arrived (.text "[0,null,5,\"MESSAGE_CREATE\"]")]

theorem steady_heartbeats_due :
    let g : Settings := { url := "wss://gateway.discord.gg", token := "secret" }
    let sent := (State.run g {} steady).2
    let beat : Frame := ⟨.heartbeat, .int 5, none, none⟩
    (State.run g {} (steady ++ [.arrived (.text "[1]")])).2 = sent ++ [.sends beat 0] ∧
      (State.run g {} (steady ++ [.elapsed 2500000000])).2 =
        sent ++ [.sends beat 1000000000, .sends beat 2000000000] ∧
      (State.run g {} (steady ++ [.abandoned])).2 = sent := by
  intro g sent beat
  have hnumber : latestNumber (past g steady) = .int 5 := by
    rw [latestNumber, show (sessionFrames (past g steady)).findSome? Frame.eventSequence? =
      some 5 by decide +kernel]
    rfl
  have hnow : (State.run g {} steady).1.now = 0 := by decide +kernel
  refine ⟨?_, ?_, ?_⟩
  · have hrequest : (Happening.arrived (.text "[1]")).Brings .heartbeat :=
      Happening.brings_iff.mpr (by decide +kernel)
    rw [(heartbeats_due g steady _).1 ⟨by decide +kernel, hrequest⟩, hnumber, hnow]
  · have hgreeting : (greeting? (datedPast g steady)).map (fun x => (x.1, x.2.heartbeatInterval)) =
        some (0, 1000000000) := by
      decide +kernel
    obtain ⟨⟨greeted, f⟩, hgreeted, hdue⟩ := Option.map_eq_some_iff.mp hgreeting
    obtain ⟨rfl, hinterval⟩ := Prod.mk.inj hdue
    obtain ⟨times, hrun, hsorted, hmem⟩ := (heartbeats_due g steady _).2.1 2500000000 rfl
    have hmultiples : ∀ t : Nat, (∃ k : Nat, 1 ≤ k ∧ t = 0 + k * 1000000000 ∧ 0 < t ∧
        t ≤ 0 + 2500000000) ↔ t ∈ [1000000000, 2000000000] := by
      intro t
      simp only [List.mem_cons, List.not_mem_nil, or_false]
      constructor
      · rintro ⟨k, hk, rfl, -, hle⟩
        omega
      · rintro (rfl | rfl)
        · exact ⟨1, by omega⟩
        · exact ⟨2, by omega⟩
    have htimes : times = [1000000000, 2000000000] := by
      refine hsorted.eq_of_mem_iff (by decide) fun t => ?_
      rw [hmem, hgreeted, hnow, ← hmultiples, ← hinterval]
      constructor
      · rintro ⟨_, _, k, hsame, hk⟩
        obtain ⟨rfl, rfl⟩ := Prod.mk.inj (Option.some.inj hsame)
        exact ⟨k, hk⟩
      · rintro ⟨k, hk⟩
        exact ⟨_, f, k, rfl, hk⟩
    rw [hrun, htimes, hnumber]
    rfl
  · have hother : ¬Happening.abandoned.Brings .heartbeat := Happening.not_brings rfl
    obtain ⟨hrun, -⟩ := (heartbeats_due g steady .abandoned).2.2 (fun h => hother h.2)
      fun _ h => Happening.noConfusion h
    rw [hrun]
    exact List.append_nil _

end Gateway

end DiscordBot
