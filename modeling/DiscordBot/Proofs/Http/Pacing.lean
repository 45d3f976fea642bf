import DiscordBot.Proofs.Http.Retries
import DiscordBot.Proofs.RateLimit.ClockRange

/-! When the requests of a client are sent, over any number of calls. All that counts can be read off the
attempts made before: the bucket that the responses to them name, and the wait after the last response. -/

namespace DiscordBot

def AtEach {α : Type} (P : List α → α → List α → Prop) (xs : List α) : Prop :=
  ∀ before x after, xs = before ++ x :: after → P before x after

section AtEach

variable {α : Type} {P : List α → α → List α → Prop} {x : α} {xs : List α}

lemma atEach_cons : AtEach P (x :: xs) ↔ P [] x xs ∧ AtEach (fun before => P (x :: before)) xs := by
  constructor
  · exact fun h => ⟨h [] x xs rfl, fun before y after hxs => h (x :: before) y after (by rw [hxs]; rfl)⟩
  · rintro ⟨hx, hxs⟩ before y after h
    rcases List.cons_eq_append_iff.mp h with ⟨rfl, heq⟩ | ⟨before, rfl, heq⟩
    · obtain ⟨rfl, rfl⟩ := List.cons.inj heq
      exact hx
    · exact hxs before y after heq

end AtEach

namespace Http

open RateLimit (Endpoint Bucket Notice RateLimiter Tells Counts Resets)
open Rest (Outcome)
open Time (Instant addTo?)

structure Hop where
  request : Request
  sentAt : Instant
  reply : Reply

namespace Hop

def arrivedAt (h : Hop) : Instant := h.sentAt + h.reply.delay

def sent (h : Hop) : Sent := ⟨h.request, h.sentAt⟩

end Hop

/-- Each request is what the redirect before it makes of the one before, and is sent when that arrives. -/
inductive Linked : Request → Instant → List Hop → Prop
  | none {r : Request} {t : Instant} : Linked r t []
  | last {r : Request} {t : Instant} {reply : Reply} : Linked r t [⟨r, t, reply⟩]
  | next {r r' : Request} {t : Instant} {reply : Reply} {hops : List Hop} :
      r.redirected? reply = some r' → Linked r' (t + reply.delay) hops →
      Linked r t (⟨r, t, reply⟩ :: hops)

structure Attempt where
  endpoint : Endpoint
  startedAt : Instant
  hops : List Hop

namespace Attempt

def sent (a : Attempt) : List Sent := a.hops.map Hop.sent

def replies (a : Attempt) : List Reply := a.hops.map Hop.reply

def response? (a : Attempt) : Option Hop :=
  a.hops.getLast?.filter fun h => (h.request.redirected? h.reply).isNone

def notice? (a : Attempt) : Option Notice :=
  a.response?.map fun h => ⟨a.endpoint, h.reply.headers, h.arrivedAt⟩

def failed (a : Attempt) : Bool := a.response?.any fun h => h.reply.failed

end Attempt

def notices (past : List Attempt) : List Notice := past.filterMap Attempt.notice?

def failedAttempts (as : List Attempt) : Nat := as.countP Attempt.failed

/-- The response that tells of an endpoint leaves no requests, and the reset is at an instant. -/
def ClosedUntil (past : List Attempt) (e : Endpoint) (t : Nat) : Prop :=
  ∃ m d, Tells (notices past) e m ∧ Counts m.headers "x-ratelimit-remaining" 0 ∧
    Resets m.headers "x-ratelimit-reset-after" d ∧ t = m.takenAt + d

def wake (t : Instant) (wait : Time.Duration) : Instant := (addTo? t wait).getD (t + Line.farFuture)

/-- An attempt is made when it is due, or else when its bucket is reset: on the next tick after that, and
only if nothing remains in the bucket. -/
structure Timely (past : List Attempt) (due : Instant) (a : Attempt) : Prop where
  notBefore : due ≤ a.startedAt
  reset : ∀ t, ClosedUntil past a.endpoint t → t ≤ a.startedAt
  prompt : a.startedAt = due ∨
    ∃ t, ClosedUntil past a.endpoint t ∧ due < t ∧ a.startedAt = Time.Duration.nextTick t

namespace Client

def pauseAfter (c : Client) (k : Nat) (h : Hop) : Time.Duration :=
  if h.reply.refused then retryAfter (h.reply.textFor h.request.method) else c.retryUnit * (1 + 2 * k)

def dueAfter (c : Client) : Nat → Instant → List Attempt → Instant
  | _, t, [] => t
  | k, t, a :: as =>
    match a.response? with
    | some h =>
      c.dueAfter (k + a.failed.toNat) (Time.Duration.nextTick (wake h.arrivedAt (c.pauseAfter k h))) as
    | none => c.dueAfter k t as

inductive Stops (c : Client) (made : Option Request) (e : Endpoint) (past : List Attempt) (k : Nat)
    (as : List Attempt) (rest : List Reply) : Prop
  | settled {a : Attempt} {h : Hop} :
      as.getLast? = some a → a.response? = some h → h.reply.retried = false →
      Stops c made e past k as rest
  | exhausted : k + failedAttempts as = c.maxRetries → Stops c made e past k as rest
  | silent : rest = [] → Stops c made e past k as rest
  | lost {a : Attempt} : as.getLast? = some a → a.response? = none → Stops c made e past k as rest
  | beyondClock {t : Nat} : ClosedUntil (past ++ as) e t → Time.greatestInstant < t →
      Stops c made e past k as rest
  | endless {a : Attempt} {j : Nat} : as.getLast? = some a → a.failed = true →
      k + failedAttempts as = j + 1 →
      2 ^ 32 ≤ 1 + 2 * j ∨ Time.Duration.greatest < c.retryUnit * (1 + 2 * j) →
      Stops c made e past k as rest
  | unmade : made = none → as = [] → Stops c made e past k as rest

/-- The attempts `as` of a call, or of what is left of it after `k` failures, that the attempts `past` went
before. It takes the line from `l` to `l'`. -/
structure Course (c : Client) (made : Option Request) (e : Endpoint) (past : List Attempt) (k : Nat)
    (l : Line) (replies : List Reply) (as : List Attempt) (l' : Line) (rest : List Reply) : Prop where
  sent : l'.sent = l.sent ++ as.flatMap Attempt.sent
  replies : replies = as.flatMap Attempt.replies ++ rest
  linked : ∀ a ∈ as, a.endpoint = e ∧ ∃ r, made = some r ∧ Linked r a.startedAt a.hops
  timely : AtEach (fun earlier a _ => Timely (past ++ earlier) (c.dueAfter k l.now earlier) a) as
  waits : AtEach (fun earlier a later => ∀ next ∈ later.head?,
    ∃ h, a.response? = some h ∧ h.reply.retried = true ∧
      wake h.arrivedAt (c.pauseAfter (k + failedAttempts earlier) h) ≤ next.startedAt) as
  stops : c.Stops made e past k as rest

end Client

namespace Line

variable {past : List Attempt} {e : Endpoint} {l passed : Line} {t : Nat}

def made (l : Line) (hops : List Hop) : Line := hops.foldl (fun l h => (l.record h.request).await h.reply) l

end Line

namespace Client

variable {c : Client} {e : Endpoint} {r : Request} {made : Option Request} {past as : List Attempt}
  {k : Nat} {l l' : Line} {a : Attempt} {h : Hop} {replies rest : List Reply}

lemma failedAttempts_cons (a : Attempt) (as : List Attempt) :
    failedAttempts (a :: as) = a.failed.toNat + failedAttempts as := by
  cases h : a.failed with
  | false => simp [failedAttempts, h]
  | true =>
    simp only [failedAttempts, List.countP_cons, h, if_true, Bool.toNat_true]
    omega

lemma Stops.cons (h : c.Stops (some r) e (past ++ [a]) (k + a.failed.toNat) as rest) :
    c.Stops (some r) e past k (a :: as) rest := by
  cases h with
  | settled hlast hresponse hretried =>
    exact .settled (by simp [List.getLast?_cons, hlast]) hresponse hretried
  | exhausted hcount => exact .exhausted (by rw [failedAttempts_cons]; omega)
  | silent hrest => exact .silent hrest
  | lost hlast hresponse => exact .lost (by simp [List.getLast?_cons, hlast]) hresponse
  | beyondClock hclosed hlate => exact .beyondClock (by simpa using hclosed) hlate
  | endless hlast hfailed hcount hlong =>
    exact .endless (by simp [List.getLast?_cons, hlast]) hfailed
      (by rw [failedAttempts_cons]; omega) hlong
  | unmade hmade => cases hmade

lemma dueAfter_cons {t : Instant} (hresponse : a.response? = some h) (as : List Attempt) :
    c.dueAfter k t (a :: as) = c.dueAfter (k + a.failed.toNat)
      (Time.Duration.nextTick (wake h.arrivedAt (c.pauseAfter k h))) as := by
  rw [dueAfter, hresponse]

lemma Course.cons {next : Line}
    (hcourse : c.Course (some r) e (past ++ [a]) (k + a.failed.toNat) next replies as l' rest)
    (hlinked : a.endpoint = e ∧ Linked r a.startedAt a.hops) (htimely : Timely past l.now a)
    (hresponse : a.response? = some h) (hretried : h.reply.retried = true)
    (hnow : next.now = Time.Duration.nextTick (wake h.arrivedAt (c.pauseAfter k h)))
    (hsent : next.sent = l.sent ++ a.sent) :
    c.Course (some r) e past k l (a.replies ++ replies) (a :: as) l' rest where
  sent := by rw [hcourse.sent, hsent, List.flatMap_cons, List.append_assoc]
  replies := by rw [hcourse.replies, List.flatMap_cons, List.append_assoc]
  linked := List.forall_mem_cons.mpr ⟨⟨hlinked.1, r, rfl, hlinked.2⟩, hcourse.linked⟩
  timely := by
    refine atEach_cons.mpr ⟨by rwa [List.append_nil, dueAfter], fun earlier a' later heq => ?_⟩
    have hlater := hcourse.timely earlier a' later heq
    rw [hnow, List.append_assoc, List.singleton_append] at hlater
    rw [← dueAfter_cons hresponse] at hlater
    exact hlater
  waits := by
    refine atEach_cons.mpr ⟨fun following hfollowing => ⟨h, hresponse, hretried, ?_⟩, ?_⟩
    · obtain ⟨later, rfl⟩ : ∃ later, as = following :: later :=
        ⟨as.tail, (List.cons_head?_tail hfollowing).symm⟩
      have hdue : next.now ≤ following.startedAt := (hcourse.timely [] following later rfl).notBefore
      rw [hnow] at hdue
      exact Nat.le_trans (Time.Duration.nextTick_bounds _).1 hdue
    · simpa [failedAttempts_cons, Nat.add_assoc] using hcourse.waits
  stops := hcourse.stops.cons

namespace Tried

variable {made : Line}

end Tried

end Client

structure Job where
  pause : Time.Duration := 0
  method : String
  route : String
  options : Options := {}

namespace Job

def endpoint (j : Job) : Endpoint := (Text.dropLeading '/' j.route, j.method)

def start (j : Job) (l : Line) : Line := { l with now := l.now + j.pause }

end Job

namespace Client

def perform (c : Client) (s : Line × List Reply) (j : Job) : Line × List Reply :=
  (c.request j.method j.route j.options s.2 (j.start s.1)).2

variable {c : Client} {past : List Attempt} {l : Line} {j : Job} {replies : List Reply}

end Client

end Http

end DiscordBot
