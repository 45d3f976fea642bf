import DiscordBot.Http.Client
import DiscordBot.Proofs.RateLimit.History
import Mathlib.Tactic.Ring

/-! The course of a request through refusals and failures: which replies it takes, how long it waits after
each of them, and what becomes of it. -/

namespace DiscordBot.Http

open RateLimit (Endpoint Bucket)
open Rest (Outcome)
open Time (Instant)

namespace Reply

def refused (r : Reply) : Bool := r.status == 429

def failed (r : Reply) : Bool := isServerFailure r.status

def retried (r : Reply) : Bool := r.refused || r.failed

def knownStatuses : List Nat := [304, 400, 401, 403, 404, 405]

inductive Settles (method : String) (r : Reply) : Outcome → Prop
  | empty : isSuccess r.status = true → r.status = 204 ∨ Text.isBlankText (r.textFor method) = true →
      Settles method r (.ok none)
  | value {j : Json} : isSuccess r.status = true → r.status ≠ 204 →
      Text.isBlankText (r.textFor method) = false → Json.parse? (r.textFor method) = some j →
      Settles method r (.ok (some j))
  | unreadable : isSuccess r.status = true → r.status ≠ 204 →
      Text.isBlankText (r.textFor method) = false → Json.parse? (r.textFor method) = none →
      Settles method r (.error .malformedJson)
  | known {error : BotError} : r.status ∈ knownStatuses →
      BotError.ofStatus? r.status (reason r.status) = some error → Settles method r (.error error)
  | unexpected : isSuccess r.status = false → r.status ∉ knownStatuses → r.retried = false →
      Settles method r (.error (.unexpectedStatus r.status (reason r.status)))

lemma ofStatus?_isSome_iff (status : Nat) (reason : String) :
    (BotError.ofStatus? status reason).isSome = true ↔ status ∈ knownStatuses ∨ status = 429 := by
  unfold BotError.ofStatus?
  split <;> simp_all [knownStatuses]

lemma not_refused_of_failed {r : Reply} (h : r.failed = true) : r.refused = false := by
  have hstatus : 500 ≤ r.status ∧ r.status < 600 := by simpa [failed, isServerFailure] using h
  rw [refused, beq_eq_false_iff_ne]
  omega

lemma verdict_refused {r : Reply} (h : r.refused = true) (method : String) :
    verdict r.status (r.textFor method) = .refused (retryAfter (r.textFor method)) := by
  simp_all [refused, verdict, isSuccess]

lemma verdict_failed {r : Reply} (h : r.failed = true) (method : String) :
    verdict r.status (r.textFor method) = .failed := by
  have hstatus : 500 ≤ r.status ∧ r.status < 600 := by simpa [failed, isServerFailure] using h
  have hsuccess : isSuccess r.status = false := by
    rw [isSuccess, Bool.and_eq_false_iff, decide_eq_false_iff_not, decide_eq_false_iff_not]
    omega
  have hunknown : BotError.ofStatus? r.status (reason r.status) = none := by
    rw [← Option.not_isSome_iff_eq_none, ofStatus?_isSome_iff]
    simp only [knownStatuses, List.mem_cons, List.not_mem_nil, or_false]
    omega
  have hrefused : (r.status == 429) = false := not_refused_of_failed h
  have hserver : isServerFailure r.status = true := h
  simp [verdict, hsuccess, hrefused, hunknown, hserver]

lemma verdict_settled {r : Reply} (h : r.retried = false) (method : String) :
    ∃ outcome, verdict r.status (r.textFor method) = .settled outcome ∧
      r.Settles method (.ofExcept outcome) := by
  obtain ⟨hrefused, hserver⟩ : (r.status == 429) = false ∧ isServerFailure r.status = false := by
    simpa [retried, refused, failed] using h
  unfold verdict
  cases hsuccess : isSuccess r.status with
  | true =>
    simp only [if_true]
    split
    · next hempty => exact ⟨_, rfl, .empty hsuccess (by simpa using hempty)⟩
    · next hfull =>
      obtain ⟨hstatus, hblank⟩ : r.status ≠ 204 ∧ Text.isBlankText (r.textFor method) = false := by
        simpa using hfull
      cases hj : Json.parse? (r.textFor method) with
      | some j => exact ⟨_, rfl, .value hsuccess hstatus hblank hj⟩
      | none => exact ⟨_, rfl, .unreadable hsuccess hstatus hblank hj⟩
  | false =>
    have hknown := ofStatus?_isSome_iff r.status (reason r.status)
    simp only [hrefused, hserver, Bool.false_eq_true, if_false]
    cases herror : BotError.ofStatus? r.status (reason r.status) with
    | some error =>
      rw [herror] at hknown
      refine ⟨_, rfl, .known ((hknown.mp rfl).resolve_right ?_) herror⟩
      simpa using hrefused
    | none =>
      rw [herror] at hknown
      exact ⟨_, rfl, .unexpected hsuccess (fun hs => by simpa using hknown.mpr (.inl hs)) h⟩

end Reply

structure Retry where
  reply : Reply
  wait : Time.Duration

def failures (ts : List Retry) : Nat := ts.countP fun t => t.reply.failed

def backOffs (ts : List Retry) : List Time.Duration :=
  (ts.filter fun t => t.reply.failed).map Retry.wait

namespace Line

def turn? (l : Line) (e : Endpoint) (r : Request) (reply : Reply) : Option Line :=
  (l.pass? e).map fun l => ((l.record r).await reply).learn e reply

def course? (e : Endpoint) (r : Request) : List Retry → Line → Option Line
  | [], l => some l
  | t :: ts, l => (l.turn? e r t.reply).bind fun l => course? e r ts (l.sleep t.wait)

lemma now_sent (l : Line) (t : Instant) : ({ l with now := t } : Line).sent = l.sent := rfl

-- Not by `rfl`, which would compare the two times first and unfold the ticks of the clock.
lemma sleep_sent (l : Line) (d : Time.Duration) : (l.sleep d).sent = l.sent := l.now_sent _

lemma pass?_sent {l l' : Line} {e : Endpoint} (h : l.pass? e = some l') : l'.sent = l.sent := by
  unfold pass? at h
  split at h
  · rw [← Option.some.inj h]
  · rw [← Option.some.inj h]
  · cases h

lemma turn?_requests {l l' : Line} {e : Endpoint} {r : Request} {reply : Reply}
    (h : l.turn? e r reply = some l') :
    l'.sent.map Sent.request = l.sent.map Sent.request ++ [r] := by
  obtain ⟨passed, hpass, rfl⟩ := Option.map_eq_some_iff.mp h
  simp [learn, await, record, pass?_sent hpass]

lemma course?_requests {e : Endpoint} {r : Request} {ts : List Retry} {l l' : Line}
    (h : course? e r ts l = some l') :
    l'.sent.map Sent.request = l.sent.map Sent.request ++ List.replicate ts.length r := by
  induction ts generalizing l with
  | nil => simp [Option.some.inj h]
  | cons t ts ih =>
    obtain ⟨next, hturn, hrest⟩ := Option.bind_eq_some_iff.mp h
    rw [ih hrest, sleep_sent, turn?_requests hturn, List.append_assoc, List.length_cons,
      List.replicate_succ, List.singleton_append]

end Line

namespace Client

variable {c : Client} {e : Endpoint} {r : Request} {method : String} {k : Nat} {l after : Line}
  {reply : Reply} {replies : List Reply} {ts : List Retry} {result : Outcome × Line × List Reply}

/-- The tries are counted in 32 bits together with the waits, and all waits after failures are lengths of
time. -/
structure Fits (c : Client) : Prop where
  tries : c.maxRetries ≤ 2 ^ 31
  waits : ∀ k < c.maxRetries, c.retryUnit * (1 + 2 * k) ≤ Time.Duration.greatest

/-- Retries after replies that call for them, with `k` failures before the first one. The waits after
failures grow by two units each, whatever the refusals between them. -/
structure Due (c : Client) (method : String) (k : Nat) (ts : List Retry) : Prop where
  retried : ∀ t ∈ ts, t.reply.retried = true
  refused : ∀ t ∈ ts, t.reply.refused = true → t.wait = retryAfter (t.reply.textFor method)
  failed : backOffs ts = (List.range' k (failures ts)).map fun j => c.retryUnit * (1 + 2 * j)

lemma due_nil (c : Client) (method : String) (k : Nat) : c.Due method k [] := by
  constructor <;> simp [backOffs, failures]

lemma Due.cons_refused (h : c.Due method k ts) (hreply : reply.refused = true) :
    c.Due method k (⟨reply, retryAfter (reply.textFor method)⟩ :: ts) := by
  have hfailed : reply.failed = false := by
    rw [← Bool.not_eq_true]
    exact fun hf => by simp [Reply.not_refused_of_failed hf] at hreply
  refine ⟨?_, ?_, ?_⟩
  · exact List.forall_mem_cons.mpr ⟨by simp [Reply.retried, hreply], h.retried⟩
  · exact List.forall_mem_cons.mpr ⟨fun _ => rfl, h.refused⟩
  · simpa [backOffs, failures, hfailed] using h.failed

lemma Due.cons_failed (h : c.Due method (k + 1) ts) (hreply : reply.failed = true) :
    c.Due method k (⟨reply, c.retryUnit * (1 + 2 * k)⟩ :: ts) := by
  refine ⟨?_, ?_, ?_⟩
  · exact List.forall_mem_cons.mpr ⟨by simp [Reply.retried, hreply], h.retried⟩
  · exact List.forall_mem_cons.mpr ⟨by simp [Reply.not_refused_of_failed hreply], h.refused⟩
  · have hfailed := h.failed
    simp only [backOffs, failures] at hfailed ⊢
    simp [hreply, hfailed, List.range'_succ]

lemma sum_growing_waits (unit k n : Nat) :
    ((List.range' k n).map fun j => unit * (1 + 2 * j)).sum + k * k * unit =
      (k + n) * (k + n) * unit := by
  induction n generalizing k with
  | zero => simp
  | succ n ih =>
    calc ((List.range' k (n + 1)).map fun j => unit * (1 + 2 * j)).sum + k * k * unit
        = ((List.range' (k + 1) n).map fun j => unit * (1 + 2 * j)).sum
            + (k + 1) * (k + 1) * unit := by
          rw [List.range'_succ, List.map_cons, List.sum_cons]
          ring
      _ = (k + 1 + n) * (k + 1 + n) * unit := ih (k + 1)
      _ = (k + (n + 1)) * (k + (n + 1)) * unit := by ring

lemma Due.sum_backOffs (h : c.Due method 0 ts) :
    (backOffs ts).sum = failures ts * failures ts * c.retryUnit := by
  simpa [h.failed] using sum_growing_waits c.retryUnit 0 (failures ts)

/-- The ways in which a request ends that had `k` failures before it took the retries `ts`. The last one is
no outcome: the clock has no instant at which the request could be sent. -/
inductive Ends (c : Client) (e : Endpoint) (r : Request) (k : Nat) (l : Line) (replies : List Reply)
    (ts : List Retry) : Outcome × Line × List Reply → Prop
  | settled {before after : Line} {reply : Reply} {rest : List Reply} {outcome : Outcome} :
      Line.course? e r ts l = some before → k + failures ts < c.maxRetries →
      replies = ts.map Retry.reply ++ reply :: rest → reply.retried = false →
      before.turn? e r reply = some after → reply.Settles r.method outcome →
      Ends c e r k l replies ts (outcome, after, rest)
  | exhausted {after : Line} {rest : List Reply} :
      Line.course? e r ts l = some after → k + failures ts = c.maxRetries →
      (∀ t ∈ ts.getLast?, t.reply.failed = true) → replies = ts.map Retry.reply ++ rest →
      Ends c e r k l replies ts (.error (.serverFailure
        ("Maximum amount of retries for \x60" ++ e.1 ++ "\x60.")), after, rest)
  | silent {before after : Line} :
      Line.course? e r ts l = some before → k + failures ts < c.maxRetries →
      replies = ts.map Retry.reply → before.pass? e = some after →
      Ends c e r k l replies ts (.error .transport, after, [])
  | beyondClock {after : Line} {rest : List Reply} {b : Bucket} :
      Line.course? e r ts l = some after → k + failures ts < c.maxRetries →
      replies = ts.map Retry.reply ++ rest → after.limiter.bucketFor e = some b → b.remaining = 0 →
      Time.greatestInstant < b.cachedAt + b.resetAfter → Ends c e r k l replies ts (.overflow, after, rest)

lemma Ends.cons {wait : Time.Duration}
    (h : c.Ends e r (k + reply.failed.toNat) (after.sleep wait) replies ts result)
    (hleft : k < c.maxRetries) (hturn : l.turn? e r reply = some after) :
    c.Ends e r k l (reply :: replies) (⟨reply, wait⟩ :: ts) result := by
  have hcourse : ∀ l', Line.course? e r ts (after.sleep wait) = some l' →
      Line.course? e r (⟨reply, wait⟩ :: ts) l = some l' := fun l' h => by
    simp [Line.course?, hturn, h]
  have hcount : k + failures (⟨reply, wait⟩ :: ts) = k + reply.failed.toNat + failures ts := by
    cases hf : reply.failed with
    | false => simp [failures, hf]
    | true =>
      simp only [failures, List.countP_cons, hf, if_true, Bool.toNat_true]
      omega
  cases h with
  | settled hc hk hr hs ht ho =>
    exact .settled (hcourse _ hc) (hcount ▸ hk) (by simp [hr]) hs ht ho
  | exhausted hc hk hlast hr =>
    refine .exhausted (hcourse _ hc) (hcount ▸ hk) ?_ (by simp [hr])
    cases ts with
    | nil =>
      -- A refusal leaves a try, so that a reply that used up the last one is a failure.
      have hmoves : k + reply.failed.toNat = c.maxRetries := hk
      cases hf : reply.failed with
      | true => simpa using hf
      | false => simp [hf] at hmoves; omega
    | cons t ts => simpa using hlast
  | silent hc hk hr hp => exact .silent (hcourse _ hc) (hcount ▸ hk) (by simp [hr]) hp
  | beyondClock hc hk hr hb hz hn =>
    exact .beyondClock (hcourse _ hc) (hcount ▸ hk) (by simp [hr]) hb hz hn

def attempt (c : Client) (e : Endpoint) (r : Request) (replies : List Reply) (left : Nat) (l : Line) :
    Outcome × Line × List Reply :=
  match ready l e left with
  | .ok l => c.exchange e replies left ⟨r, r, 0⟩ l
  | .error error => (.error error, l, replies)
  | .overflow => (.overflow, l, replies)

lemma exchange_cons (h : r.redirected? reply = none) (left : Nat) :
    c.exchange e (reply :: replies) left ⟨r, r, 0⟩ l =
      let after := ((l.record r).await reply).learn e reply
      match verdict reply.status (reply.textFor r.method) with
      | .settled outcome => (.ofExcept outcome, after, replies)
      | .refused wait => c.attempt e r replies left (after.sleep wait)
      | .failed =>
        match c.backOff? left with
        | some wait => c.attempt e r replies (left - 1) (after.sleep wait)
        | none => (.overflow, after, replies) := by
  simp only [exchange, Trip.follow?, h, Option.map_none]
  cases verdict reply.status (reply.textFor r.method) with
  | settled outcome => rfl
  | refused wait => rfl
  | failed => cases c.backOff? left <;> rfl

lemma backOff?_eq_ite (hk : k ≤ c.maxRetries) :
    c.backOff? (c.maxRetries - k) =
      if 1 + 2 * k < 2 ^ 32 ∧ c.retryUnit * (1 + 2 * k) ≤ Time.Duration.greatest then
        some (c.retryUnit * (1 + 2 * k))
      else none := by
  rw [backOff?, Nat.sub_sub_self hk, Nat.mul_comm k]
  rfl

lemma backOff?_eq (hc : c.Fits) (hk : k < c.maxRetries) :
    c.backOff? (c.maxRetries - k) = some (c.retryUnit * (1 + 2 * k)) := by
  have htries := hc.tries
  rw [backOff?_eq_ite hk.le]
  exact if_pos ⟨by omega, hc.waits k hk⟩

lemma bucket_of_pass? (h : l.pass? e = none) :
    ∃ b, l.limiter.bucketFor e = some b ∧ b.remaining = 0 ∧
      Time.greatestInstant < b.cachedAt + b.resetAfter := by
  have hgate : l.limiter.gate e l.now = .beyondClock := by
    unfold Line.pass? at h
    split at h
    · cases h
    · cases h
    · assumption
  obtain ⟨b, hbucket, hempty, hreset⟩ := RateLimit.RateLimiter.gate_eq_beyondClock_iff.mp hgate
  exact ⟨b, hbucket, hempty, RateLimit.Bucket.resetsAt?_eq_none_iff.mp hreset⟩

lemma attempt_ends_of_exchange (hk : k ≤ c.maxRetries)
    (h : ∀ passed, k < c.maxRetries → l.pass? e = some passed → ∃ ts, c.Due r.method k ts ∧
      c.Ends e r k l replies ts (c.exchange e replies (c.maxRetries - k) ⟨r, r, 0⟩ passed)) :
    ∃ ts, c.Due r.method k ts ∧
      c.Ends e r k l replies ts (c.attempt e r replies (c.maxRetries - k) l) := by
  obtain rfl | hlt := hk.eq_or_lt
  · refine ⟨[], due_nil .., ?_⟩
    rw [Nat.sub_self]
    exact .exhausted rfl rfl (by simp) rfl
  · have hleft : (c.maxRetries - k == 0) = false := by simp; omega
    cases hpass : l.pass? e with
    | none =>
      obtain ⟨b, hbucket, hempty, hreset⟩ := bucket_of_pass? hpass
      refine ⟨[], due_nil .., ?_⟩
      simp only [attempt, ready, hleft, hpass]
      exact .beyondClock rfl hlt rfl hbucket hempty hreset
    | some passed =>
      simp only [attempt, ready, hleft, hpass]
      exact h passed hlt hpass

lemma attempt_ends (hc : c.Fits) (hredirect : ∀ reply ∈ replies, r.redirected? reply = none)
    (hk : k ≤ c.maxRetries) (l : Line) :
    ∃ ts, c.Due r.method k ts ∧
      c.Ends e r k l replies ts (c.attempt e r replies (c.maxRetries - k) l) := by
  induction replies generalizing k l with
  | nil =>
    exact attempt_ends_of_exchange hk fun passed hlt hpass =>
      ⟨[], due_nil .., .silent rfl hlt rfl hpass⟩
  | cons reply replies ih =>
    obtain ⟨hhere, hlater⟩ := List.forall_mem_cons.mp hredirect
    refine attempt_ends_of_exchange hk fun passed hlt hpass => ?_
    have hturn : l.turn? e r reply = some (((passed.record r).await reply).learn e reply) := by
      simp [Line.turn?, hpass]
    rw [exchange_cons hhere]
    generalize ((passed.record r).await reply).learn e reply = after at hturn ⊢
    cases hretried : reply.retried with
    | false =>
      obtain ⟨outcome, hverdict, hsettles⟩ := Reply.verdict_settled hretried r.method
      rw [hverdict]
      exact ⟨[], due_nil .., .settled rfl hlt rfl hretried hturn hsettles⟩
    | true =>
      cases hfailed : reply.failed with
      | true =>
        simp only [Reply.verdict_failed hfailed, backOff?_eq hc hlt]
        obtain ⟨ts, hdue, hends⟩ := ih hlater (Nat.succ_le_of_lt hlt)
          (after.sleep (c.retryUnit * (1 + 2 * k)))
        exact ⟨_, hdue.cons_failed hfailed, .cons (by rwa [hfailed]) hlt hturn⟩
      | false =>
        have hrefused : reply.refused = true := by simpa [Reply.retried, hfailed] using hretried
        rw [Reply.verdict_refused hrefused]
        obtain ⟨ts, hdue, hends⟩ := ih hlater hk (after.sleep (retryAfter (reply.textFor r.method)))
        exact ⟨_, hdue.cons_refused hrefused, .cons (by rwa [hfailed]) hlt hturn⟩

lemma Ends.requests (h : c.Ends e r k l replies ts result) :
    result.2.1.sent.map Sent.request =
      l.sent.map Sent.request ++ List.replicate (replies.length - result.2.2.length) r := by
  cases h with
  | settled hc _ hr _ ht _ =>
    rw [Line.turn?_requests ht, Line.course?_requests hc, List.append_assoc,
      ← List.replicate_succ', hr]
    congr 2
    simp
    omega
  | exhausted hc _ _ hr => simp [Line.course?_requests hc, hr]
  | silent hc _ hr hp => simp [Line.pass?_sent hp, Line.course?_requests hc, hr]
  | beyondClock hc _ hr _ _ _ => simp [Line.course?_requests hc, hr]

lemma Ends.untried {rest : List Reply} {outcome : Outcome}
    (h : c.Ends e r 0 l replies ts (outcome, after, rest)) (hzero : c.maxRetries = 0) :
    after = l ∧ rest = replies := by
  cases h with
  | settled _ hk | silent _ hk | beyondClock _ hk => omega
  | exhausted hc hk hlast hr =>
    have hnone : ∀ t ∈ ts, ¬t.reply.failed = true := by
      refine List.countP_eq_zero.mp (?_ : failures ts = 0)
      omega
    have hts : ts = [] := by
      refine List.getLast?_eq_none_iff.mp (Option.eq_none_iff_forall_not_mem.mpr fun t ht => ?_)
      exact hnone t (List.mem_of_getLast? ht) (hlast t ht)
    subst hts
    exact ⟨(Option.some.inj hc).symm, hr.symm⟩

lemma make?_method {defaults : List RateLimit.Header} {url : String} {o : Options}
    (h : Request.make? defaults method url o = some r) : r.method = method := by
  obtain ⟨u, -, h⟩ := Option.bind_eq_some_iff.mp h
  split at h
  · cases h
  · obtain ⟨own, -, h⟩ := Option.bind_eq_some_iff.mp h
    exact congrArg Request.method (Option.some.inj h).symm

/-- A request goes on through refusals and failures until another reply settles it or its tries have
failed, unless its bucket is empty until after the last instant of the clock. It waits after each refusal as
long as the refusal says, and after the failures one unit, three units, five units and so on. -/
theorem request_ends (c : Client) (hc : c.Fits) (method route : String) (o : Options)
    (replies : List Reply) (l : Line) {r : Request}
    (hr : Request.make? c.defaultHeaders method (c.url ++ "/" ++ Text.dropLeading '/' route) o = some r)
    (hredirect : ∀ reply ∈ replies, r.redirected? reply = none) :
    let e : Endpoint := (Text.dropLeading '/' route, method)
    ∃ ts outcome after rest, c.request method route o replies l = (outcome, after, rest) ∧
      c.Due method 0 ts ∧ c.Ends e r 0 l replies ts (outcome, after, rest) ∧
      after.sent.map Sent.request =
        l.sent.map Sent.request ++ List.replicate (replies.length - rest.length) r ∧
      (backOffs ts).sum = failures ts * failures ts * c.retryUnit ∧
      (c.maxRetries = 0 → after = l ∧ rest = replies) := by
  intro e
  have hrequest : c.request method route o replies l = c.attempt e r replies c.maxRetries l := by
    unfold request attempt
    dsimp only
    cases ready l e c.maxRetries with
    | error error => rfl
    | overflow => rfl
    | ok l =>
      simp only [hr]
      rfl
  obtain ⟨ts, hdue, hends⟩ := attempt_ends (e := e) hc hredirect (Nat.zero_le c.maxRetries) l
  rw [Nat.sub_zero, ← hrequest] at hends
  rw [make?_method hr] at hdue
  exact ⟨ts, _, _, _, rfl, hdue, hends, hends.requests, hdue.sum_backOffs, hends.untried⟩

def twoTries : Client := ⟨"secret", "http://[::1]/api/v10", 2, .ofWholeSeconds 1⟩

def flakyReplies : List Reply := [
  ⟨503, [], "", 0⟩, ⟨429, [], "\x7b\"retry_after\": 2\x7d", 5⟩, ⟨502, [], "", 0⟩, ⟨200, [], "[1]", 0⟩]

lemma twoTries_fits : twoTries.Fits := ⟨by decide, by decide⟩

theorem twoTries_request_ends :
    ∃ r ts outcome after, twoTries.request "GET" "/channels/7" {} flakyReplies {} =
        (outcome, after, [⟨200, [], "[1]", 0⟩]) ∧
      twoTries.Ends ("channels/7", "GET") r 0 {} flakyReplies ts
        (outcome, after, [⟨200, [], "[1]", 0⟩]) ∧
      after.sent.map Sent.request = [r, r, r] ∧
      (backOffs ts).sum = failures ts * failures ts * Time.Duration.ofWholeSeconds 1 := by
  obtain ⟨r, hr⟩ : ∃ r, Request.make? twoTries.defaultHeaders "GET"
      (twoTries.url ++ "/" ++ Text.dropLeading '/' "/channels/7") {} = some r :=
    Option.isSome_iff_exists.mp (by decide +kernel)
  have hredirect : ∀ reply ∈ flakyReplies, r.redirected? reply = none := by
    simp [flakyReplies, Request.redirected?, isRedirect]
  obtain ⟨ts, outcome, after, rest, hrequest, -, hends, hsent, hsum, -⟩ :=
    request_ends twoTries twoTries_fits "GET" "/channels/7" {} flakyReplies {} hr hredirect
  have hroute : Text.dropLeading '/' "/channels/7" = "channels/7" := by decide +kernel
  have hrest : (twoTries.request "GET" "/channels/7" {} flakyReplies {}).2.2 =
      [⟨200, [], "[1]", 0⟩] := by decide +kernel
  rw [hrequest] at hrest
  subst hrest
  rw [hroute] at hends
  exact ⟨r, ts, outcome, after, hrequest, hends, by simpa [flakyReplies] using hsent, hsum⟩

def endlessReplies : List Reply := [
  ⟨429, [("x-ratelimit-bucket", "abcd"), ("x-ratelimit-remaining", "0"),
    ("x-ratelimit-reset-after", "1e19")], "", 0⟩, ⟨200, [], "[1]", 0⟩]

lemma eq_overflow {x : Outcome} (h : (match x with | .overflow => true | _ => false) = true) :
    x = .overflow := by
  cases x with
  | overflow => rfl
  | ok body => cases h
  | error e => cases h

theorem twoTries_overflow :
    twoTries.Fits ∧
      let result := twoTries.request "GET" "/channels/7" {} endlessReplies {}
      result.1 = .overflow ∧ result.2.1.sent.length = 1 ∧ result.2.2 = [⟨200, [], "[1]", 0⟩] := by
  refine ⟨twoTries_fits, eq_overflow ?_, ?_, ?_⟩ <;> decide +kernel

end Client

end DiscordBot.Http
