import DiscordBot.Proofs.RateLimit.Bookkeeping

/-! Resets that the clock cannot show. A header may show any number of seconds below `2^64`, but the clock
ends after `2^63` of them, so that a wait for a bucket may have no end that it could wait for. -/

namespace DiscordBot

namespace Decimal

lemma Nearest.unique {n m : Nat} {x : ℚ} (hn : Nearest n x) (hm : Nearest m x) : n = m := by
  -- Two neighbours are both nearest only if they are at the same distance, and then both are even.
  have hnever : ∀ {n m : Nat}, Nearest n x → Nearest m x → ¬n < m := by
    intro n m hn hm hlt
    obtain ⟨hnlow, hnhigh⟩ := abs_le.mp hn.1
    obtain ⟨hmlow, hmhigh⟩ := abs_le.mp hm.1
    have hstep : (n : ℚ) + 1 ≤ m := by exact_mod_cast hlt
    have hnhalf : (n : ℚ) - x = -(1 / 2) := by linarith
    have hmhalf : (m : ℚ) - x = 1 / 2 := by linarith
    have hneven : Even n := hn.2 (by rw [hnhalf, abs_neg, abs_of_pos one_half_pos])
    have hmeven : Even m := hm.2 (by rw [hmhalf, abs_of_pos one_half_pos])
    have hsucc : m = n + 1 := by
      have : (m : ℚ) = n + 1 := by linarith
      exact_mod_cast this
    exact absurd hneven (Nat.even_add_one.mp (hsucc ▸ hmeven))
  rcases Nat.lt_trichotomy n m with hlt | heq | hlt
  · exact absurd hlt (hnever hn hm)
  · exact heq
  · exact absurd hlt (hnever hm hn)

end Decimal

namespace RateLimit

open Decimal (FloatShape Nearest Numeral)
open Time (Instant greatestInstant)

section Headers

variable {headers : List Header} {name : String}

lemma Shows.unique {text text' : String} (h : Shows headers name text) (h' : Shows headers name text') :
    text = text' :=
  Option.some.inj ((header?_eq_some_iff.mpr h).symm.trans (header?_eq_some_iff.mpr h'))

lemma Counts.unique {k k' : UInt32} (h : Counts headers name k) (h' : Counts headers name k') : k = k' := by
  cases h with
  | shown htext hnumeral =>
    cases h' with
    | shown htext' hnumeral' =>
      obtain rfl := htext.unique htext'
      rw [← Decimal.readUInt32?_eq_some] at hnumeral hnumeral'
      exact Option.some.inj (hnumeral.symm.trans hnumeral')
    | unreadable hnone => exact absurd hnumeral (hnone _ _ htext)
  | unreadable hnone =>
    cases h' with
    | shown htext' hnumeral' => exact absurd hnumeral' (hnone _ _ htext')
    | unreadable _ => rfl

lemma Resets.unique {d d' : Time.Duration} (h : Resets headers name d) (h' : Resets headers name d') :
    d = d' := by
  have hnever : ∀ {text x v}, Shows headers name text → Decimal.readFloat? text = some x →
      FloatShape.of x = .finite v → 0 ≤ v.value → v.value < 2 ^ 64 →
      ¬∀ text x v, Shows headers name text → Decimal.readFloat? text = some x →
        FloatShape.of x = .finite v → v.value < 0 ∨ 2 ^ 64 ≤ v.value := by
    intro text x v htext hx hv hlow hhigh hnone
    exact (hnone text x v htext hx hv).elim (not_lt.mpr hlow) (not_le.mpr hhigh)
  cases h with
  | shown htext hx hv hlow hhigh hnearest =>
    cases h' with
    | shown htext' hx' hv' _ _ hnearest' =>
      obtain rfl := htext.unique htext'
      obtain rfl := Option.some.inj (hx.symm.trans hx')
      obtain rfl := FloatShape.finite.inj (hv.symm.trans hv')
      exact hnearest.unique hnearest'
    | unusable hnone => exact absurd hnone (hnever htext hx hv hlow hhigh)
  | unusable hnone =>
    cases h' with
    | shown htext' hx' hv' hlow' hhigh' _ => exact absurd hnone (hnever htext' hx' hv' hlow' hhigh')
    | unusable _ => rfl

end Headers

/-- The response that tells what is known of an endpoint: the last one that named the bucket which the last
response to the endpoint that named any named. -/
def Tells (past : List Notice) (e : Endpoint) (m : Notice) : Prop :=
  ∃ n id, Latest (fun o => o.endpoint = e ∧ ∃ id, o.Names id) past n ∧ n.Names id ∧
    Latest (·.Names id) past m

def Notice.OutlastsClock (m : Notice) : Prop :=
  ∃ d, Resets m.headers "x-ratelimit-reset-after" d ∧ greatestInstant < m.takenAt + d

lemma Notice.remaining_bucket_eq_zero_iff (m : Notice) :
    m.bucket.remaining = 0 ↔ Counts m.headers "x-ratelimit-remaining" 0 := by
  constructor
  · intro h
    exact h ▸ m.describes_bucket.remaining
  · exact fun h => m.describes_bucket.remaining.unique h

lemma Notice.outlastsClock_iff (m : Notice) :
    m.OutlastsClock ↔ greatestInstant < m.bucket.cachedAt + m.bucket.resetAfter := by
  rw [m.describes_bucket.cachedAt]
  constructor
  · rintro ⟨d, hd, hlate⟩
    rwa [m.describes_bucket.resetAfter.unique hd]
  · intro hlate
    exact ⟨_, m.describes_bucket.resetAfter, hlate⟩

lemma Notice.OutlastsClock.shown {m : Notice} (h : m.OutlastsClock) (htaken : m.takenAt ≤ greatestInstant) :
    ∃ text x v, Shows m.headers "x-ratelimit-reset-after" text ∧ Decimal.readFloat? text = some x ∧
      FloatShape.of x = .finite v ∧ v.value < 2 ^ 64 ∧
      2 ^ 63 * 10 ^ 9 ≤ m.takenAt + v.value * 10 ^ 9 + 1 / 2 := by
  obtain ⟨d, hd, hlate⟩ := h
  cases hd with
  | unusable _ => exact absurd htaken (Nat.not_le.mpr hlate)
  | shown htext hx hv _ hhigh hnearest =>
    refine ⟨_, _, _, htext, hx, hv, hhigh, ?_⟩
    have hsum : (2 ^ 63 * 10 ^ 9 : ℚ) ≤ m.takenAt + d := by
      have : 2 ^ 63 * 10 ^ 9 ≤ m.takenAt + d := hlate
      exact_mod_cast this
    have hround := (abs_le.mp hnearest.1).2
    linarith

namespace RateLimiter

lemma bucketFor_eq_some_iff {past : List Notice} {e : Endpoint} {b : Bucket} :
    (after past).bucketFor e = some b ↔ ∃ m, Tells past e m ∧ m.bucket = b := by
  rw [bucketFor_after, bucketAfter?, Option.bind_eq_some_iff]
  simp only [idFor?_eq_some_iff, bucketNamed?_eq_some_iff]
  constructor
  · rintro ⟨id, ⟨n, hn, hid⟩, m, hm, hb⟩
    exact ⟨m, ⟨n, id, hn, hid, hm⟩, hb⟩
  · rintro ⟨m, ⟨n, id, hn, hid, hm⟩, hb⟩
    exact ⟨id, ⟨n, hn, hid⟩, m, hm, hb⟩

/-- A wait has no end that the clock can show exactly if the response that tells of the endpoint leaves no
requests until behind the last instant of the clock. The headers of such a response, taken in while the
clock still runs, show a number of seconds below `2^64` that reaches `2^63` when it is added. -/
theorem beyondClock_iff (past : List Notice) (e : Endpoint) (now : Instant) :
    ((after past).gate e now = .beyondClock ↔
      ∃ m, Tells past e m ∧ Counts m.headers "x-ratelimit-remaining" 0 ∧ m.OutlastsClock) ∧
    ∀ m : Notice, m.OutlastsClock → m.takenAt ≤ greatestInstant →
      ∃ text x v, Shows m.headers "x-ratelimit-reset-after" text ∧ Decimal.readFloat? text = some x ∧
        FloatShape.of x = .finite v ∧ v.value < 2 ^ 64 ∧
        2 ^ 63 * 10 ^ 9 ≤ m.takenAt + v.value * 10 ^ 9 + 1 / 2 := by
  refine ⟨?_, fun m h htaken => h.shown htaken⟩
  rw [gate_eq_beyondClock_iff]
  simp only [Bucket.resetsAt?_eq_none_iff]
  constructor
  · rintro ⟨b, hb, hremaining, hlate⟩
    obtain ⟨m, hm, rfl⟩ := bucketFor_eq_some_iff.mp hb
    exact ⟨m, hm, m.remaining_bucket_eq_zero_iff.mp hremaining, m.outlastsClock_iff.mpr hlate⟩
  · rintro ⟨m, hm, hremaining, hlate⟩
    exact ⟨m.bucket, bucketFor_eq_some_iff.mpr ⟨m, hm, rfl⟩,
      m.remaining_bucket_eq_zero_iff.mpr hremaining, m.outlastsClock_iff.mp hlate⟩

def endlessReset : Notice :=
  ⟨("channels/1", "GET"), [("x-ratelimit-bucket", "abcd"), ("x-ratelimit-remaining", "0"),
    ("x-ratelimit-reset-after", "1e19")], 0⟩

theorem endlessReset_shown :
    (endlessReset.OutlastsClock ∧ endlessReset.takenAt ≤ greatestInstant) ∧
    ∃ text x v, Shows endlessReset.headers "x-ratelimit-reset-after" text ∧
      Decimal.readFloat? text = some x ∧ FloatShape.of x = .finite v ∧ v.value < 2 ^ 64 ∧
      2 ^ 63 * 10 ^ 9 ≤ endlessReset.takenAt + v.value * 10 ^ 9 + 1 / 2 := by
  have hlate : endlessReset.OutlastsClock := endlessReset.outlastsClock_iff.mpr (by decide +kernel)
  have htaken : endlessReset.takenAt ≤ greatestInstant := Nat.zero_le _
  exact ⟨⟨hlate, htaken⟩, (beyondClock_iff [endlessReset] endlessReset.endpoint 0).2 _ hlate htaken⟩

theorem endlessReset_beyondClock :
    ((after [endlessReset]).bucketFor endlessReset.endpoint).map Bucket.resetsAt? = some none ∧
    (after [endlessReset]).gate endlessReset.endpoint endlessReset.takenAt = .beyondClock := by
  decide +kernel

end RateLimiter

end RateLimit

end DiscordBot
