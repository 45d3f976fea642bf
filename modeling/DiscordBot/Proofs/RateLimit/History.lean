import DiscordBot.RateLimit
import Mathlib.Data.List.Basic
import Mathlib.Data.List.Induction

/-! What the limiter knows, read off the responses so far: for an endpoint the last bucket that a response
named for it, and for a bucket the last response that named it, to whatever endpoint. -/

namespace DiscordBot.RateLimit

open Time (Instant addTo? greatestInstant)

structure Notice where
  endpoint : Endpoint
  headers : List Header
  takenAt : Instant

def Notice.bucketId? (n : Notice) : Option String := header? n.headers "x-ratelimit-bucket"

def Notice.bucket (n : Notice) : Bucket := Bucket.ofHeaders n.headers n.takenAt

def idFor? (past : List Notice) (e : Endpoint) : Option String :=
  past.reverse.findSome? fun n => if n.endpoint = e then n.bucketId? else none

def bucketNamed? (past : List Notice) (id : String) : Option Bucket :=
  (past.reverse.find? fun n => n.bucketId? == some id).map Notice.bucket

def bucketAfter? (past : List Notice) (e : Endpoint) : Option Bucket :=
  (idFor? past e).bind (bucketNamed? past)

lemma Bucket.resetsAt?_eq_none_iff {b : Bucket} :
    b.resetsAt? = none ↔ greatestInstant < b.cachedAt + b.resetAfter := by
  simp [resetsAt?, addTo?]

namespace RateLimiter

def saveNotice (r : RateLimiter) (n : Notice) : RateLimiter := r.save n.endpoint n.headers n.takenAt

def after (past : List Notice) : RateLimiter := past.foldl saveNotice {}

lemma lookup_put {κ ν : Type} [BEq κ] [LawfulBEq κ] (key k : κ) (value : ν) (table : List (κ × ν)) :
    (put key value table).lookup k = if k == key then some value else table.lookup k := by
  induction table with
  | nil => cases h : k == key <;> simp [put, List.lookup_cons, h]
  | cons entry rest ih =>
    obtain ⟨j, w⟩ := entry
    unfold put
    cases hj : j == key with
    | true =>
      obtain rfl := eq_of_beq hj
      cases h : k == j <;> simp [List.lookup_cons, h]
    | false =>
      cases h : k == j with
      | true =>
        obtain rfl := eq_of_beq h
        simp [hj]
      | false => simp [List.lookup_cons, ih, h]

variable {past : List Notice} {n : Notice}

lemma after_concat (past : List Notice) (n : Notice) : after (past ++ [n]) = (after past).saveNotice n :=
  List.foldl_concat ..

lemma idFor?_concat (e : Endpoint) :
    idFor? (past ++ [n]) e = ((if n.endpoint = e then n.bucketId? else none).or (idFor? past e)) := by
  rw [idFor?, List.reverse_concat, List.findSome?_cons]
  cases (if n.endpoint = e then n.bucketId? else none) <;> rfl

lemma bucketNamed?_concat (id : String) :
    bucketNamed? (past ++ [n]) id =
      if n.bucketId? = some id then some n.bucket else bucketNamed? past id := by
  by_cases h : n.bucketId? = some id <;> simp [bucketNamed?, h]

lemma lookup_bucketIds (past : List Notice) (e : Endpoint) :
    (after past).bucketIds.lookup e = idFor? past e := by
  induction past using List.reverseRecOn with
  | nil => rfl
  | append_singleton past n ih =>
    rw [after_concat, idFor?_concat, saveNotice, save, ← Notice.bucketId?]
    cases hid : n.bucketId? with
    | none => simp [ih]
    | some id =>
      rw [lookup_put, ih]
      by_cases he : n.endpoint = e
      · simp [he]
      · simp [he, Ne.symm he]

lemma lookup_buckets (past : List Notice) (id : String) :
    (after past).buckets.lookup id = bucketNamed? past id := by
  induction past using List.reverseRecOn with
  | nil => rfl
  | append_singleton past n ih =>
    rw [after_concat, bucketNamed?_concat, saveNotice, save, ← Notice.bucketId?]
    cases hid : n.bucketId? with
    | none => simpa using ih
    | some id' =>
      rw [lookup_put, ih]
      by_cases h : id' = id
      · simp [h, Notice.bucket]
      · simp [h, Ne.symm h]

lemma gate_eq_beyondClock_iff {r : RateLimiter} {e : Endpoint} {now : Instant} :
    r.gate e now = .beyondClock ↔
      ∃ b, r.bucketFor e = some b ∧ b.remaining = 0 ∧ b.resetsAt? = none := by
  rw [gate]
  cases r.bucketFor e with
  | none => simp
  | some b =>
    by_cases hremaining : b.remaining = 0
    · cases hreset : b.resetsAt? with
      | none => simp [hremaining, hreset]
      | some t => by_cases hnow : now < t <;> simp [hremaining, hreset, hnow]
    · simp [hremaining, UInt32.pos_iff_ne_zero]

theorem bucketFor_after (past : List Notice) (e : Endpoint) :
    (after past).bucketFor e = bucketAfter? past e := by
  rw [bucketFor, lookup_bucketIds, bucketAfter?]
  exact Option.bind_congr fun id _ => lookup_buckets past id

end RateLimiter

end DiscordBot.RateLimit
