import DiscordBot.Http.Client
import DiscordBot.Proofs.RateLimit.History

/-! Waits for a bucket, while other requests save theirs. A wait looks at its bucket once, when it begins,
and then sleeps until that bucket is reset. What is saved meanwhile does not prolong it. -/

namespace DiscordBot.RateLimit

open Time (Instant addTo?)

def Bucket.Exhausted (b : Bucket) (now : Instant) : Prop :=
  b.remaining = 0 ∧ now < b.cachedAt + b.resetAfter

lemma Bucket.resetsAt?_eq_some {b : Bucket} {t : Instant} (h : b.resetsAt? = some t) :
    b.cachedAt + b.resetAfter = t := by
  unfold resetsAt? addTo? at h
  split at h
  · exact Option.some.inj h
  · cases h

namespace RateLimiter

variable {r : RateLimiter} {e : Endpoint} {now t : Instant}

lemma not_exhausted_of_free (h : r.gate e now = .free) {b : Bucket} (hb : r.bucketFor e = some b) :
    ¬b.Exhausted now := by
  rintro ⟨hremaining, hnow⟩
  simp only [gate, hb, hremaining] at h
  cases hreset : b.resetsAt? with
  | none => simp [hreset] at h
  | some t => simp [hreset, ← Bucket.resetsAt?_eq_some hreset, hnow] at h

lemma exhausted_of_closedUntil (h : r.gate e now = .closedUntil t) :
    ∃ b, r.bucketFor e = some b ∧ b.Exhausted now ∧ b.cachedAt + b.resetAfter = t := by
  unfold gate at h
  split at h
  · cases h
  · rename_i b hb
    split at h
    · cases h
    · rename_i hremaining
      split at h
      · cases h
      · rename_i reset hreset
        split at h
        · rename_i hnow
          obtain rfl := Gate.closedUntil.inj h
          obtain rfl := Bucket.resetsAt?_eq_some hreset
          exact ⟨b, hb, ⟨by simpa using hremaining, hnow⟩, rfl⟩
        · cases h

lemma bucketFor_save (r : RateLimiter) (e e' : Endpoint) (headers : List Header) (now : Instant) :
    (r.save e' headers now).bucketFor e = r.bucketFor e ∨
      (r.save e' headers now).bucketFor e = some (Bucket.ofHeaders headers now) := by
  unfold save
  cases header? headers "x-ratelimit-bucket" with
  | none => exact .inl rfl
  | some id =>
    simp only [bucketFor, lookup_put]
    by_cases he : e = e'
    · simp [he]
    · cases hid : r.bucketIds.lookup e with
      | none => simp [he]
      | some known =>
        by_cases hknown : known = id
        · simp [he, hknown]
        · simp [he, hknown]

end RateLimiter

inductive Wait where
  | unread
  | asleep (t : Instant)
  | over
  | beyondClock
  deriving DecidableEq, Repr

inductive Event where
  | saved (e : Endpoint) (headers : List Header)
  | elapsed (d : Time.Duration)
  | polled

structure Waiting where
  limiter : RateLimiter
  now : Instant
  wait : Wait := .unread

namespace Waiting

def poll (e : Endpoint) (s : Waiting) : Wait :=
  match s.wait with
  | .unread =>
    match s.limiter.gate e s.now with
    | .free => .over
    | .closedUntil t => .asleep t
    | .beyondClock => .beyondClock
  | .asleep t => if Time.Duration.nextTick t ≤ s.now then .over else .asleep t
  | w => w

def step (e : Endpoint) (s : Waiting) : Event → Waiting
  | .saved e' headers => { s with limiter := s.limiter.save e' headers s.now }
  | .elapsed d => { s with now := s.now + d }
  | .polled => { s with wait := s.poll e }

def run (e : Endpoint) (s : Waiting) (events : List Event) : Waiting := events.foldl (step e) s

variable {e : Endpoint} {s : Waiting} {events : List Event}

lemma run_concat (e : Endpoint) (s : Waiting) (events : List Event) (event : Event) :
    run e s (events ++ [event]) = step e (run e s events) event :=
  List.foldl_concat ..

lemma run_append (e : Endpoint) (s : Waiting) (before after : List Event) :
    run e s (before ++ after) = run e (run e s before) after :=
  List.foldl_append

lemma asleep_of_run {t : Instant} (hunread : s.wait = .unread) (h : (run e s events).wait = .asleep t) :
    ∃ before after b, events = before ++ .polled :: after ∧ (run e s before).wait = .unread ∧
      (run e s before).limiter.bucketFor e = some b ∧
      b.Exhausted (run e s before).now ∧ b.cachedAt + b.resetAfter = t := by
  induction events using List.reverseRecOn with
  | nil => exact absurd (hunread.symm.trans h) (by simp)
  | append_singleton events event ih =>
    rw [run_concat] at h
    -- either the wait was asleep before the last event, or it fell asleep in it
    have hlast : (run e s events).wait = .asleep t ∨ event = .polled ∧
        (run e s events).wait = .unread ∧
          (run e s events).limiter.gate e (run e s events).now = .closedUntil t := by
      cases event with
      | saved => exact .inl h
      | elapsed => exact .inl h
      | polled =>
        simp only [step, poll] at h
        split at h
        · rename_i hwait
          split at h
          · cases h
          · rename_i hgate
            obtain rfl := Wait.asleep.inj h
            exact .inr ⟨rfl, hwait, hgate⟩
          · cases h
        · rename_i hwait
          split at h
          · cases h
          · exact .inl (hwait.trans h)
        · exact .inl h
    rcases hlast with hasleep | ⟨rfl, hwait, hgate⟩
    · obtain ⟨before, after, b, rfl, hb⟩ := ih hasleep
      exact ⟨before, after ++ [event], b, by simp, hb⟩
    · obtain ⟨b, hb⟩ := RateLimiter.exhausted_of_closedUntil hgate
      exact ⟨events, [], b, rfl, hwait, hb⟩

lemma bucketFor_run {b : Bucket} (h : (run e s events).limiter.bucketFor e = some b) :
    s.limiter.bucketFor e = some b ∨ ∃ before after e' headers,
      events = before ++ .saved e' headers :: after ∧
      b = Bucket.ofHeaders headers (run e s before).now := by
  induction events using List.reverseRecOn with
  | nil => exact .inl h
  | append_singleton events event ih =>
    rw [run_concat] at h
    have hlast : (run e s events).limiter.bucketFor e = some b ∨ ∃ e' headers, event = .saved e' headers ∧
        b = Bucket.ofHeaders headers (run e s events).now := by
      cases event with
      | saved e' headers =>
        rcases RateLimiter.bucketFor_save (run e s events).limiter e e' headers (run e s events).now with
          hsame | hsaved
        · exact .inl (hsame.symm.trans h)
        · exact .inr ⟨e', headers, rfl, Option.some.inj (h.symm.trans hsaved)⟩
      | elapsed => exact .inl h
      | polled => exact .inl h
    rcases hlast with hb | ⟨e', headers, rfl, rfl⟩
    · rcases ih hb with hstart | ⟨before, after, e', headers, rfl, hsaved⟩
      · exact .inl hstart
      · exact .inr ⟨before, after ++ [event], e', headers, by simp, hsaved⟩
    · exact .inr ⟨events, [], e', headers, rfl, rfl⟩

/-- If a bucket is exhausted when a wait for it ends, then it was saved while the wait slept until the reset
of another one. Without such a save, the bucket is not exhausted. -/
theorem saved_of_exhausted (hunread : s.wait = .unread) (hpending : (run e s events).wait ≠ .over)
    (hover : (run e s (events ++ [.polled])).wait = .over) {b : Bucket}
    (hb : (run e s (events ++ [.polled])).limiter.bucketFor e = some b)
    (hexhausted : b.Exhausted (run e s (events ++ [.polled])).now) :
    ∃ before meanwhile after e' headers,
      events = before ++ .polled :: meanwhile ++ .saved e' headers :: after ∧
      (run e s before).wait = .unread ∧
      b = Bucket.ofHeaders headers (run e s (before ++ .polled :: meanwhile)).now ∧
      ∃ slept, (run e s before).limiter.bucketFor e = some slept ∧ slept.Exhausted (run e s before).now ∧
        slept.cachedAt + slept.resetAfter ≤ (run e s (events ++ [.polled])).now := by
  rw [run_concat] at hover hb hexhausted ⊢
  change (run e s events).limiter.bucketFor e = some b at hb
  change b.Exhausted (run e s events).now at hexhausted
  simp only [step, poll] at hover
  split at hover
  · -- at its first poll a wait ends only if nothing is exhausted
    split at hover
    · rename_i hfree
      exact absurd hexhausted (RateLimiter.not_exhausted_of_free hfree hb)
    · cases hover
    · cases hover
  · rename_i t hasleep
    split at hover
    · rename_i hlate
      obtain ⟨before, later, slept, rfl, hbefore, hslept, hstart, hreset⟩ := asleep_of_run hunread hasleep
      have hreset : slept.cachedAt + slept.resetAfter ≤ (run e s (before ++ .polled :: later)).now :=
        Nat.le_trans (Nat.le_of_eq hreset) (Nat.le_trans (Time.Duration.nextTick_bounds t).1 hlate)
      rw [run_append] at hb
      rcases bucketFor_run hb with hsame | ⟨meanwhile, after, e', headers, hlater, hsaved⟩
      · -- nothing was saved, so that the bucket is the one slept for
        obtain rfl := Option.some.inj (hslept.symm.trans hsame)
        exact absurd hreset (Nat.not_le.mpr hexhausted.2)
      · cases meanwhile with
        | nil => cases hlater
        | cons first meanwhile =>
          obtain ⟨rfl, rfl⟩ := List.cons.inj hlater
          refine ⟨before, meanwhile, after, e', headers, by simp, hbefore, ?_, slept, hslept, hstart,
            hreset⟩
          rw [run_append]
          exact hsaved
    · cases hover
  · exact absurd hover hpending

def exhausting (reset : String) : List Header := [
  ("x-ratelimit-bucket", "shared"), ("x-ratelimit-remaining", "0"), ("x-ratelimit-reset-after", reset)]

def firstRoute : Endpoint := ("channels/1", "GET")

def contention : List Event := [
  .saved firstRoute (exhausting "2"), .polled, .elapsed (.ofWholeSeconds 1),
  .saved ("channels/2", "GET") (exhausting "5"), .elapsed (.ofWholeSeconds 1)]

def exhaustedAgain : Bucket where
  limit := 1
  remaining := 0
  resetAfter := .ofWholeSeconds 5
  cachedAt := Time.Duration.ofWholeSeconds 1

def contended : Waiting := run firstRoute ⟨{}, 0, .unread⟩ (contention ++ [.polled])

lemma wait_contention :
    (run firstRoute ⟨{}, 0, .unread⟩ contention).wait = .asleep (Time.Duration.ofWholeSeconds 2) := by
  decide +kernel

lemma contended_wait : contended.wait = .over := by decide +kernel

lemma contended_bucketFor : contended.limiter.bucketFor firstRoute = some exhaustedAgain := by decide +kernel

lemma contended_exhausted : exhaustedAgain.Exhausted contended.now := by
  unfold Bucket.Exhausted
  decide +kernel

theorem contention_saved :
    contended.wait = .over ∧ contended.limiter.bucketFor firstRoute = some exhaustedAgain ∧
      exhaustedAgain.Exhausted contended.now ∧
      ∃ e' headers now, .saved e' headers ∈ contention ∧ exhaustedAgain = Bucket.ofHeaders headers now := by
  have hpending : (run firstRoute ⟨{}, 0, .unread⟩ contention).wait ≠ .over := by
    rw [wait_contention]
    decide
  obtain ⟨before, meanwhile, after, e', headers, hcontention, -, hsaved, -⟩ :=
    saved_of_exhausted rfl hpending contended_wait contended_bucketFor contended_exhausted
  exact ⟨contended_wait, contended_bucketFor, contended_exhausted, e', headers, _, by simp [hcontention], hsaved⟩

theorem exhausted_after_wait :
    ∃ (e : Endpoint) (events : List Event),
      let s := run e ⟨{}, 0, .unread⟩ events
      let s' := run e ⟨{}, 0, .unread⟩ (events ++ [.polled])
      s.wait ≠ .over ∧ s'.wait = .over ∧
        ∃ b, s'.limiter.bucketFor e = some b ∧ ¬0 < b.remaining ∧ ¬b.cachedAt + b.resetAfter ≤ s'.now := by
  refine ⟨firstRoute, contention, ?_, contended_wait, exhaustedAgain, contended_bucketFor, by decide,
    Nat.not_le.mpr contended_exhausted.2⟩
  rw [wait_contention]
  decide

end Waiting

end DiscordBot.RateLimit
