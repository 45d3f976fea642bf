import DiscordBot.Proofs.Time.Calendar
import DiscordBot.Snowflake
import Mathlib.Algebra.Order.Ring.Int
import Mathlib.Tactic.Lemma

/-! The parts of a snowflake. They lie in its id without a gap or an overlap, and the largest id is still
of a date. -/

namespace DiscordBot

namespace Time

lemma Date.yearInRange_ofDays {n : Int} (h₀ : 0 ≤ n) (h : n < 95000000) :
    yearInRange (ofDays n).year = true := by
  obtain ⟨e, c, q, k, r, ⟨sum, centuries, cycles, years, days, -⟩, heq⟩ := ofDays_eq n
  have hmarch : ∀ y : Int, y ≤ (ofMarch y r).year ∧ (ofMarch y r).year ≤ y + 1 := by
    intro y
    simp only [ofMarch]
    split <;> omega
  obtain ⟨hlow, hhigh⟩ := hmarch (400 * e + 100 * c + 4 * q + k)
  rw [heq, yearInRange, Bool.and_eq_true, decide_eq_true_iff, decide_eq_true_iff, leastYear, greatestYear]
  omega

namespace Timestamp

variable {ms ms' : Int}

lemma ofMillis?_eq_some (h₀ : 0 ≤ ms) (h : ms < 2 ^ 52) :
    ofMillis? ms = some ⟨ms / 1000, (ms % 1000).toNat * 1000000⟩ := by
  have hseconds : ms.fdiv 1000 = ms / 1000 := Int.fdiv_eq_ediv_of_nonneg ms (by decide)
  have hrest : ms.fmod 1000 = ms % 1000 := Int.fmod_eq_emod_of_nonneg ms (by decide)
  have hdays : (ms / 1000).fdiv 86400 = ms / 1000 / 86400 :=
    Int.fdiv_eq_ediv_of_nonneg (ms / 1000) (by decide)
  rw [ofMillis?, hseconds, hrest, hdays]
  exact if_pos (Date.yearInRange_ofDays (by omega) (by omega))

lemma millis_of_parts (ms : Int) : millis ⟨ms / 1000, (ms % 1000).toNat * 1000000⟩ = ms := by
  simp only [millis, Nat.mul_div_cancel _ (show 0 < 1000000 by decide)]
  omega

lemma parts_le_parts (h : ms ≤ ms') : (⟨ms / 1000, (ms % 1000).toNat * 1000000⟩ : Timestamp) ≤
    ⟨ms' / 1000, (ms' % 1000).toNat * 1000000⟩ := by
  change _ < _ ∨ _ = _ ∧ _ ≤ _
  dsimp only
  omega

end Timestamp

end Time

namespace Snowflake

variable {s t : Snowflake}

lemma masked_field {n mask low width : Nat} (h : mask >>> low = 2 ^ width - 1) :
    (n &&& mask) >>> low = n / 2 ^ low % 2 ^ width := by
  rw [Nat.shiftRight_and_distrib, h, Nat.and_two_pow_sub_one_eq_mod, Nat.shiftRight_eq_div_pow]

lemma workerId_eq (s : Snowflake) : s.workerId = s.id.toNat / 2 ^ 17 % 2 ^ 5 := by
  rw [workerId, UInt64.toNat_shiftRight, UInt64.toNat_and]
  exact masked_field (by decide)

lemma processId_eq (s : Snowflake) : s.processId = s.id.toNat / 2 ^ 12 % 2 ^ 5 := by
  rw [processId, UInt64.toNat_shiftRight, UInt64.toNat_and]
  exact masked_field (by decide)

lemma increment_eq (s : Snowflake) : s.increment = s.id.toNat % 2 ^ 12 := by
  rw [increment, UInt64.toNat_and]
  exact Nat.and_two_pow_sub_one_eq_mod s.id.toNat 12

lemma workerId_lt (s : Snowflake) : s.workerId < 32 := by
  rw [workerId_eq]
  exact Nat.mod_lt _ (by decide)

lemma processId_lt (s : Snowflake) : s.processId < 32 := by
  rw [processId_eq]
  exact Nat.mod_lt _ (by decide)

lemma increment_lt (s : Snowflake) : s.increment < 4096 := by
  rw [increment_eq]
  exact Nat.mod_lt _ (by decide)

lemma toNat_highBits (s : Snowflake) : (s.id >>> 22).toNat = s.id.toNat / 2 ^ 22 := by
  rw [UInt64.toNat_shiftRight, Nat.shiftRight_eq_div_pow]
  rfl

lemma toNat_epochMillis : epochMillis.toNat = 1420070400000 := rfl

lemma highBits_add_epoch_lt (s : Snowflake) : (s.id >>> 22).toNat + epochMillis.toNat < 2 ^ 43 := by
  have hid := s.id.toNat_lt
  rw [toNat_highBits, toNat_epochMillis]
  omega

lemma toNat_unixMillis (s : Snowflake) :
    s.unixMillis.toNat = (s.id >>> 22).toNat + epochMillis.toNat := by
  have hlt := s.highBits_add_epoch_lt
  rw [unixMillis, UInt64.toNat_add]
  apply Nat.mod_eq_of_lt
  omega

lemma unixMillis_lt (s : Snowflake) : s.unixMillis.toNat < 2 ^ 43 :=
  s.toNat_unixMillis ▸ s.highBits_add_epoch_lt

lemma toInt_unixMillis (s : Snowflake) : s.unixMillis.toInt64.toInt = s.unixMillis.toNat := by
  have hlt := s.unixMillis_lt
  rw [Int64.toInt, UInt64.toBitVec_toInt64, BitVec.toInt_eq_toNat_of_lt, UInt64.toNat_toBitVec]
  rw [UInt64.toNat_toBitVec]
  omega

lemma ofMillis?_unixMillis (s : Snowflake) :
    Time.Timestamp.ofMillis? s.unixMillis.toNat = some s.timestamp := by
  have hlt := s.unixMillis_lt
  rw [timestamp, toInt_unixMillis, Time.Timestamp.ofMillis?_eq_some (by omega) (by omega)]
  rfl

lemma timestamp_eq (s : Snowflake) : s.timestamp =
    ⟨(s.unixMillis.toNat : Int) / 1000, (s.unixMillis.toNat % 1000 : Int).toNat * 1000000⟩ := by
  have hlt := s.unixMillis_lt
  have htimestamp := s.ofMillis?_unixMillis
  rw [Time.Timestamp.ofMillis?_eq_some (by omega) (by omega)] at htimestamp
  exact (Option.some.inj htimestamp).symm

lemma millis_timestamp (s : Snowflake) : s.timestamp.millis = s.unixMillis.toNat := by
  rw [timestamp_eq]
  exact Time.Timestamp.millis_of_parts _

lemma timestamp_ne_unixEpoch (s : Snowflake) : s.timestamp ≠ .unixEpoch := by
  intro hunix
  have hmillis : (0 : Int) = s.unixMillis.toNat := by
    rw [← millis_timestamp, hunix]
    rfl
  rw [toNat_unixMillis, toNat_epochMillis] at hmillis
  omega

lemma id_eq (s : Snowflake) : (s.id.toNat : Int) = (s.timestamp.millis - epochMillis.toNat) * 2 ^ 22 +
    s.workerId * 2 ^ 17 + s.processId * 2 ^ 12 + s.increment := by
  rw [millis_timestamp, toNat_unixMillis, toNat_highBits, workerId_eq, processId_eq, increment_eq]
  omega

lemma eq_of_parts (htimestamp : s.timestamp = t.timestamp) (hworker : s.workerId = t.workerId)
    (hprocess : s.processId = t.processId) (hincrement : s.increment = t.increment) : s = t := by
  have hid := s.id_eq
  rw [htimestamp, hworker, hprocess, hincrement, ← t.id_eq] at hid
  cases s
  cases t
  rw [Snowflake.mk.injEq]
  exact UInt64.toNat_inj.mp (Int.ofNat_inj.mp hid)

lemma timestamp_mono (h : s ≤ t) : s.timestamp ≤ t.timestamp := by
  have hid : s.id.toNat ≤ t.id.toNat := h
  rw [timestamp_eq, timestamp_eq]
  apply Time.Timestamp.parts_le_parts
  rw [toNat_unixMillis, toNat_unixMillis, toNat_highBits, toNat_highBits]
  omega

/-- The parts of a snowflake tile its id and tell it from every other one. Its time is always one that a
date has, and in the order of the ids. -/
theorem parts_tile_id :
    (∀ s : Snowflake,
      (s.id.toNat : Int) = (s.timestamp.millis - epochMillis.toNat) * 2 ^ 22 + s.workerId * 2 ^ 17 +
        s.processId * 2 ^ 12 + s.increment ∧
      s.workerId < 32 ∧ s.processId < 32 ∧ s.increment < 4096 ∧
      (s.id >>> 22).toNat + epochMillis.toNat < 2 ^ 64 ∧
      Time.Timestamp.ofMillis? s.unixMillis.toInt64.toInt = some s.timestamp ∧
      s.timestamp ≠ .unixEpoch) ∧
    (∀ s t : Snowflake, s.timestamp = t.timestamp → s.workerId = t.workerId →
      s.processId = t.processId → s.increment = t.increment → s = t) ∧
    ∀ s t : Snowflake, s ≤ t → s.timestamp ≤ t.timestamp := by
  refine ⟨fun s => ?_, fun _ _ => eq_of_parts, fun _ _ => timestamp_mono⟩
  have hsum : (s.id >>> 22).toNat + epochMillis.toNat < 2 ^ 64 :=
    s.highBits_add_epoch_lt.trans (by decide)
  have hdate : Time.Timestamp.ofMillis? s.unixMillis.toInt64.toInt = some s.timestamp := by
    rw [toInt_unixMillis]
    exact s.ofMillis?_unixMillis
  exact ⟨s.id_eq, s.workerId_lt, s.processId_lt, s.increment_lt, hsum, hdate, s.timestamp_ne_unixEpoch⟩

def sample : Snowflake := ⟨175928847299117063⟩

def composed : Snowflake := ⟨((41944705796 * 32 + 1) * 32 + 0) * 4096 + 7⟩

def greatest : Snowflake := ⟨0xFFFFFFFFFFFFFFFF⟩

lemma millis_sample : sample.timestamp.millis = 1462015105796 := by decide +kernel

lemma timestamp_composed : sample.timestamp = composed.timestamp := by decide +kernel

theorem sample_parts :
    (sample.timestamp = composed.timestamp ∧ sample.workerId = composed.workerId ∧
      sample.processId = composed.processId ∧ sample.increment = composed.increment ∧ sample ≤ greatest) ∧
    (sample.id.toNat : Int) = (1462015105796 - epochMillis.toNat) * 2 ^ 22 + (1 : Nat) * 2 ^ 17 +
      (0 : Nat) * 2 ^ 12 + (7 : Nat) ∧
    sample = composed ∧ sample.timestamp ≤ greatest.timestamp := by
  obtain ⟨htile, hdetermined, hmono⟩ := parts_tile_id
  have hworker : sample.workerId = composed.workerId := by decide
  have hprocess : sample.processId = composed.processId := by decide
  have hincrement : sample.increment = composed.increment := by decide
  have hle : sample ≤ greatest := UInt64.le_iff_toNat_le.mpr (by decide)
  have hvalues : sample.workerId = 1 ∧ sample.processId = 0 ∧ sample.increment = 7 := by decide
  have hsample := (htile sample).1
  rw [millis_sample, hvalues.1, hvalues.2.1, hvalues.2.2] at hsample
  exact ⟨⟨timestamp_composed, hworker, hprocess, hincrement, hle⟩, hsample,
    hdetermined _ _ timestamp_composed hworker hprocess hincrement, hmono _ _ hle⟩

end Snowflake

end DiscordBot
