import DiscordBot.Decimal.Reader
import DiscordBot.Json.Form
import DiscordBot.Time.Clock

/-! Rate limits as the headers of responses tell them. Routes with one limit share a bucket. -/

namespace DiscordBot.RateLimit

open Time (Instant)

structure Bucket where
  limit : UInt32
  remaining : UInt32
  resetAfter : Time.Duration
  cachedAt : Instant
  deriving DecidableEq, Repr, Inhabited

def Bucket.toJson (b : Bucket) : Json := .obj [
  ("limit", DiscordBot.toJson b.limit), ("remaining", DiscordBot.toJson b.remaining),
  ("reset_after_ns", .str (toString b.resetAfter))]

def Bucket.resetsAt? (b : Bucket) : Option Instant := Time.addTo? b.cachedAt b.resetAfter

abbrev Header := String × String

def lowerName (s : String) : String := String.ofList (s.toList.map Decimal.lowerAscii)

def isReadable (s : String) : Bool :=
  s.toList.all fun c => (decide (' ' ≤ c) && decide (c ≤ '~')) || c == '\t'

def header? (headers : List Header) (name : String) : Option String :=
  match headers.find? fun h => lowerName h.1 == name with
  | some (_, v) => if isReadable v then some v else none
  | none => none

/-- The bucket that the headers describe. What cannot be read counts as one, a reset as at once. -/
def Bucket.ofHeaders (headers : List Header) (now : Instant) : Bucket where
  limit := ((header? headers "x-ratelimit-limit").bind Decimal.readUInt32?).getD 1
  remaining := ((header? headers "x-ratelimit-remaining").bind Decimal.readUInt32?).getD 1
  resetAfter := (((header? headers "x-ratelimit-reset-after").bind Decimal.readFloat?).bind
    Time.Duration.ofSeconds?).getD 0
  cachedAt := now

abbrev Endpoint := String × String

structure RateLimiter where
  bucketIds : List (Endpoint × String) := []
  buckets : List (String × Bucket) := []
  deriving Inhabited

namespace RateLimiter

def put {κ ν : Type} [BEq κ] (key : κ) (value : ν) : List (κ × ν) → List (κ × ν)
  | [] => [(key, value)]
  | (k, v) :: rest => if k == key then (key, value) :: rest else (k, v) :: put key value rest

def save (r : RateLimiter) (endpoint : Endpoint) (headers : List Header) (now : Instant) :
    RateLimiter :=
  match header? headers "x-ratelimit-bucket" with
  | none => r
  | some id =>
    { bucketIds := put endpoint id r.bucketIds
      buckets := put id (Bucket.ofHeaders headers now) r.buckets }

def bucketFor (r : RateLimiter) (endpoint : Endpoint) : Option Bucket :=
  (r.bucketIds.lookup endpoint).bind fun id => r.buckets.lookup id

inductive Gate where
  | free
  | closedUntil (t : Instant)
  | beyondClock
  deriving DecidableEq, Repr

def gate (r : RateLimiter) (endpoint : Endpoint) (now : Instant) : Gate :=
  match r.bucketFor endpoint with
  | none => .free
  | some b =>
    if 0 < b.remaining then .free
    else
      match b.resetsAt? with
      | none => .beyondClock
      | some t => if now < t then .closedUntil t else .free

end RateLimiter

end DiscordBot.RateLimit
