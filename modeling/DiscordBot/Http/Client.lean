import DiscordBot.Http.Redirect
import DiscordBot.Http.Status
import DiscordBot.Rest.Session

/-! The client of the REST interface. A request waits for its rate limit. It is sent again after a
refusal, and after a failure of the server as often as the client has tries. -/

namespace DiscordBot.Http

open RateLimit (Header Endpoint RateLimiter)
open Rest (Outcome)
open Time (Instant)

def userAgent : String := "DiscordBot (https://github.com/Pincer-org/Pincer, 0.1.0)"

structure Settings where
  token : String
  version : UInt8 := 10
  base : String := "https://discord.com/api"
  maxRetries : Nat := 5
  retryUnit : Time.Duration := .ofWholeSeconds 1

structure Client where
  token : String
  url : String
  maxRetries : Nat
  retryUnit : Time.Duration

namespace Client

def authorization (token : String) : String := "Bot " ++ token

def ofSettings (s : Settings) : Except BotError Client :=
  if isHeaderValue (authorization s.token) then
    .ok {
      token := s.token
      url := Text.dropTrailing '/' s.base ++ "/v" ++ toString s.version.toNat
      maxRetries := s.maxRetries
      retryUnit := s.retryUnit }
  else .error (.config "token contains characters not allowed in a header")

def defaultHeaders (c : Client) : List Header := [
  ("authorization", authorization c.token), ("user-agent", userAgent)]

end Client

structure Sent where
  request : Request
  sentAt : Instant

def Sent.toJson (s : Sent) : Json :=
  let headers := s.request.headers.mergeSort fun a b => decide (a.1 ≤ b.1)
  .obj [
    ("method", .str s.request.method),
    ("target", .str s.request.url.target),
    ("headers", .arr (headers.map fun h => .arr [.str h.1, .str h.2])),
    ("body", .str (s.request.body.getD "")),
    ("at_ms", .int (Time.Duration.ceilMillis s.sentAt))]

structure Line where
  limiter : RateLimiter := {}
  now : Instant := 0
  sent : List Sent := []

namespace Line

/-- A length of time that the clock cannot show counts as thirty years. -/
def farFuture : Time.Duration := .ofWholeSeconds (86400 * 365 * 30)

def sleep (l : Line) (d : Time.Duration) : Line :=
  { l with now := Time.Duration.nextTick ((Time.addTo? l.now d).getD (l.now + farFuture)) }

def pass? (l : Line) (e : Endpoint) : Option Line :=
  match l.limiter.gate e l.now with
  | .free => some l
  | .closedUntil t => some { l with now := Time.Duration.nextTick t }
  | .beyondClock => none

def record (l : Line) (r : Request) : Line := { l with sent := l.sent ++ [⟨r, l.now⟩] }

def await (l : Line) (reply : Reply) : Line := { l with now := l.now + reply.delay }

def learn (l : Line) (e : Endpoint) (reply : Reply) : Line :=
  { l with limiter := l.limiter.save e reply.headers l.now }

end Line

structure Trip where
  first : Request
  current : Request
  redirects : Nat := 0

def Trip.follow? (t : Trip) (reply : Reply) : Option (Option Trip) :=
  (t.current.redirected? reply).map fun r =>
    if t.redirects < greatestRedirects then some ⟨t.first, r, t.redirects + 1⟩ else none

namespace Client

def backOff? (c : Client) (left : Nat) : Option Time.Duration :=
  -- The tries and the waits are counted in 32 bits.
  let units := 1 + (c.maxRetries - left) * 2
  if units < UInt32.size ∧ c.retryUnit * units ≤ .greatest then some (c.retryUnit * units) else none

def ready (l : Line) (e : Endpoint) (left : Nat) : Result BotError Line :=
  if left == 0 then .error (.serverFailure ("Maximum amount of retries for \x60" ++ e.1 ++ "\x60."))
  else
    match l.pass? e with
    | some l => .ok l
    | none => .overflow

/-- Sends a request to a server that gives these replies, and acts on them until there is an outcome.
The replies that were not needed are left over. -/
def exchange (c : Client) (e : Endpoint) : List Reply → Nat → Trip → Line →
    Outcome × Line × List Reply
  | [], _, _, l => (.error .transport, l, [])
  | reply :: replies, left, t, l =>
    let l := (l.record t.current).await reply
    match t.follow? reply with
    | some none => (.error .transport, l, replies)
    | some (some t) => exchange c e replies left t l
    | none =>
      let l := l.learn e reply
      let again (left : Nat) (l : Line) : Outcome × Line × List Reply :=
        match ready l e left with
        | .ok l => exchange c e replies left ⟨t.first, t.first, 0⟩ l
        | .error error => (.error error, l, replies)
        | .overflow => (.overflow, l, replies)
      match verdict reply.status (reply.textFor t.current.method) with
      | .settled outcome => (.ofExcept outcome, l, replies)
      | .refused wait => again left (l.sleep wait)
      | .failed =>
        match c.backOff? left with
        | some wait => again (left - 1) (l.sleep wait)
        | none => (.overflow, l, replies)

def request (c : Client) (method route : String) (o : Options) (replies : List Reply) (l : Line) :
    Outcome × Line × List Reply :=
  let route := Text.dropLeading '/' route
  let e : Endpoint := (route, method)
  match ready l e c.maxRetries with
  | .error error => (.error error, l, replies)
  | .overflow => (.overflow, l, replies)
  | .ok l =>
    match Request.make? c.defaultHeaders method (c.url ++ "/" ++ route) o with
    | none => (.error .transport, l, replies)
    | some r => exchange c e replies c.maxRetries ⟨r, r, 0⟩ l

def optionsFor (call : Rest.Call) : Options :=
  match call.method with
  | .get => { params := call.data }
  | _ => { body := call.data.map Json.render }

def server (c : Client) : Rest.Server (Line × List Reply) := fun (l, replies) call =>
  c.request call.method.text call.route (optionsFor call) replies l

end Client

end DiscordBot.Http
