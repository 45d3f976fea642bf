import DiscordBot.Proofs.Decimal.Numeral
import DiscordBot.Proofs.RateLimit.History
import DiscordBot.Proofs.Time.Nanoseconds

/-! The bucket of an endpoint is the one that its last response named, as the last response that named it,
to whatever endpoint, described it. -/

namespace DiscordBot.RateLimit

open Decimal (Numeral Nearest FloatShape)

def Shows (headers : List Header) (name text : String) : Prop :=
  ∃ before h after, headers = before ++ h :: after ∧ (∀ o ∈ before, lowerName o.1 ≠ name) ∧
    lowerName h.1 = name ∧ h.2 = text ∧ ∀ ch ∈ text.toList, (' ' ≤ ch ∧ ch ≤ '~') ∨ ch = '\t'

inductive Counts (headers : List Header) (name : String) : UInt32 → Prop
  | shown {text : String} {k : UInt32} : Shows headers name text → Numeral text.toList k.toNat →
      Counts headers name k
  | unreadable : (∀ text (k : UInt32), Shows headers name text → ¬Numeral text.toList k.toNat) →
      Counts headers name 1

/-- The length of time that a header shows in seconds, to the nearest nanosecond. It is zero unless the
header shows a number, from zero on and below `2^64`. -/
inductive Resets (headers : List Header) (name : String) : Time.Duration → Prop
  | shown {text : String} {x : Float} {v : Decimal.Dyadic} {d : Time.Duration} : Shows headers name text →
      Decimal.readFloat? text = some x → FloatShape.of x = .finite v → 0 ≤ v.value → v.value < 2 ^ 64 →
      Nearest d (v.value * 10 ^ 9) → Resets headers name d
  | unusable : (∀ text x v, Shows headers name text → Decimal.readFloat? text = some x →
      FloatShape.of x = .finite v → v.value < 0 ∨ 2 ^ 64 ≤ v.value) → Resets headers name 0

def Notice.Names (n : Notice) (id : String) : Prop := Shows n.headers "x-ratelimit-bucket" id

structure Notice.Describes (n : Notice) (b : Bucket) : Prop where
  limit : Counts n.headers "x-ratelimit-limit" b.limit
  remaining : Counts n.headers "x-ratelimit-remaining" b.remaining
  resetAfter : Resets n.headers "x-ratelimit-reset-after" b.resetAfter
  cachedAt : b.cachedAt = n.takenAt

def Latest (p : Notice → Prop) (past : List Notice) (n : Notice) : Prop :=
  ∃ before after, past = before ++ n :: after ∧ p n ∧ ∀ m ∈ after, ¬p m

section Headers

variable {headers : List Header} {name text : String}

lemma isReadable_iff : isReadable text = true ↔ ∀ ch ∈ text.toList, (' ' ≤ ch ∧ ch ≤ '~') ∨ ch = '\t' := by
  simp [isReadable]

lemma header?_eq_some_iff : header? headers name = some text ↔ Shows headers name text := by
  unfold header?
  constructor
  · intro h
    split at h
    · rename_i found v hfound
      obtain ⟨hname, before, after, rfl, hbefore⟩ := List.find?_eq_some_iff_append.mp hfound
      split_ifs at h with hreadable
      obtain rfl := Option.some.inj h
      exact ⟨before, _, after, rfl, by simpa using hbefore, by simpa using hname, rfl,
        isReadable_iff.mp hreadable⟩
    · cases h
  · rintro ⟨before, h, after, rfl, hbefore, hname, rfl, hreadable⟩
    have hfound : (before ++ h :: after).find? (fun o => lowerName o.1 == name) = some h :=
      List.find?_eq_some_iff_append.mpr ⟨by simpa using hname, before, after, rfl, by simpa using hbefore⟩
    rw [hfound]
    exact if_pos (isReadable_iff.mpr hreadable)

lemma counts_header (headers : List Header) (name : String) :
    Counts headers name (((header? headers name).bind Decimal.readUInt32?).getD 1) := by
  cases hk : (header? headers name).bind Decimal.readUInt32? with
  | none =>
    refine .unreadable fun text k htext hnumeral => ?_
    rw [header?_eq_some_iff.mpr htext, Option.bind_some, Decimal.readUInt32?_eq_some.mpr hnumeral] at hk
    cases hk
  | some k =>
    obtain ⟨text, htext, hread⟩ := Option.bind_eq_some_iff.mp hk
    exact .shown (header?_eq_some_iff.mp htext) (Decimal.readUInt32?_eq_some.mp hread)

lemma resets_header (headers : List Header) (name : String) : Resets headers name
    ((((header? headers name).bind Decimal.readFloat?).bind Time.Duration.ofSeconds?).getD 0) := by
  cases hd : ((header? headers name).bind Decimal.readFloat?).bind Time.Duration.ofSeconds? with
  | none =>
    refine .unusable fun text x v htext hx hv => Time.ofSeconds?_eq_none ?_ hv
    rwa [header?_eq_some_iff.mpr htext, Option.bind_some, hx, Option.bind_some] at hd
  | some d =>
    obtain ⟨x, hread, hseconds⟩ := Option.bind_eq_some_iff.mp hd
    obtain ⟨text, htext, hx⟩ := Option.bind_eq_some_iff.mp hread
    obtain ⟨v, hv, hnonneg, hbound, hnearest⟩ := Time.ofSeconds?_eq_some hseconds
    exact .shown (header?_eq_some_iff.mp htext) hx hv hnonneg hbound hnearest

end Headers

section Notices

variable {past : List Notice} {e : Endpoint} {n : Notice} {id : String}

lemma Notice.describes_bucket (n : Notice) : n.Describes n.bucket :=
  ⟨counts_header .., counts_header .., resets_header .., rfl⟩

lemma Notice.bucketId?_eq_some_iff : n.bucketId? = some id ↔ n.Names id := header?_eq_some_iff

lemma Notice.bucketId?_eq_none_iff : n.bucketId? = none ↔ ∀ id, ¬n.Names id := by
  simp only [Option.eq_none_iff_forall_ne_some, ne_eq, bucketId?_eq_some_iff]

lemma idFor?_eq_none_iff : idFor? past e = none ↔ ∀ n ∈ past, n.endpoint = e → ∀ id, ¬n.Names id := by
  simp only [idFor?, List.findSome?_eq_none_iff, List.mem_reverse, ite_eq_right_iff,
    Notice.bucketId?_eq_none_iff]

lemma latest_of_reverse {p : Notice → Prop} {before after : List Notice}
    (hpast : past.reverse = after ++ n :: before) (hn : p n) (hafter : ∀ m ∈ after, ¬p m) :
      Latest p past n := by
  refine ⟨before.reverse, after.reverse, ?_, hn, fun m hm => hafter m (List.mem_reverse.mp hm)⟩
  rw [← List.reverse_reverse past, hpast]
  simp

lemma Latest.reverse {p : Notice → Prop} (h : Latest p past n) :
    ∃ before after, past.reverse = after ++ n :: before ∧ p n ∧ ∀ m ∈ after, ¬p m := by
  obtain ⟨before, after, rfl, hn, hafter⟩ := h
  exact ⟨before.reverse, after.reverse, by simp, hn, fun m hm => hafter m (List.mem_reverse.mp hm)⟩

lemma Latest.mem {p : Notice → Prop} (h : Latest p past n) : n ∈ past := by
  obtain ⟨before, after, rfl, -⟩ := h
  exact List.mem_append_right _ List.mem_cons_self

lemma idFor?_eq_some_iff : idFor? past e = some id ↔
    ∃ n, Latest (fun m => m.endpoint = e ∧ ∃ id, m.Names id) past n ∧ n.Names id := by
  have hnamed : ∀ m : Notice, (if m.endpoint = e then m.bucketId? else none) = none ↔
      ¬(m.endpoint = e ∧ ∃ id, m.Names id) := by
    intro m
    rw [ite_eq_right_iff, Notice.bucketId?_eq_none_iff, not_and, not_exists]
  rw [idFor?, List.findSome?_eq_some_iff]
  constructor
  · rintro ⟨after, n, before, hpast, hid, hafter⟩
    obtain ⟨he, hid⟩ := Option.ite_none_right_eq_some.mp hid
    have hnames : n.Names id := Notice.bucketId?_eq_some_iff.mp hid
    exact ⟨n, latest_of_reverse hpast ⟨he, id, hnames⟩ fun m hm => (hnamed m).mp (hafter m hm), hnames⟩
  · rintro ⟨n, hlatest, hnames⟩
    obtain ⟨before, after, hpast, ⟨he, -⟩, hafter⟩ := hlatest.reverse
    refine ⟨after, n, before, hpast, ?_, fun m hm => (hnamed m).mpr (hafter m hm)⟩
    rw [if_pos he, Notice.bucketId?_eq_some_iff.mpr hnames]

lemma idFor?_of_latest (h : Latest (fun m => m.endpoint = e ∧ ∃ id, m.Names id) past n) (hid : n.Names id) :
    idFor? past e = some id :=
  idFor?_eq_some_iff.mpr ⟨n, h, hid⟩

lemma bucketNamed?_eq_some_iff {b : Bucket} :
    bucketNamed? past id = some b ↔ ∃ m, Latest (·.Names id) past m ∧ m.bucket = b := by
  have hnamed : ∀ m : Notice, (m.bucketId? == some id) = true ↔ m.Names id := by
    intro m
    rw [beq_iff_eq, Notice.bucketId?_eq_some_iff]
  rw [bucketNamed?, Option.map_eq_some_iff]
  refine exists_congr fun m => and_congr_left' ?_
  rw [List.find?_eq_some_iff_append, hnamed]
  constructor
  · rintro ⟨hnames, after, before, hpast, hafter⟩
    refine latest_of_reverse hpast hnames fun o ho => ?_
    rw [← hnamed]
    simpa using hafter o ho
  · intro hlatest
    obtain ⟨before, after, hpast, hnames, hafter⟩ := hlatest.reverse
    refine ⟨hnames, after, before, hpast, fun o ho => ?_⟩
    have := hafter o ho
    rw [← hnamed] at this
    simpa using this

lemma bucketNamed?_of_mem (hn : n ∈ past) (hid : n.Names id) :
    ∃ m, Latest (·.Names id) past m ∧ bucketNamed? past id = some m.bucket := by
  cases hb : bucketNamed? past id with
  | none =>
    have hnot := List.find?_eq_none.mp (Option.map_eq_none_iff.mp hb) n (List.mem_reverse.mpr hn)
    simp [Notice.bucketId?_eq_some_iff.mpr hid] at hnot
  | some b =>
    obtain ⟨m, hm, rfl⟩ := bucketNamed?_eq_some_iff.mp hb
    exact ⟨m, hm, rfl⟩

lemma bucketAfter?_eq_none_iff : bucketAfter? past e = none ↔ idFor? past e = none := by
  constructor
  · intro h
    cases hid : idFor? past e with
    | none => rfl
    | some id =>
      obtain ⟨n, hlatest, hnames⟩ := idFor?_eq_some_iff.mp hid
      obtain ⟨m, -, hm⟩ := bucketNamed?_of_mem hlatest.mem hnames
      rw [bucketAfter?, hid, Option.bind_some, hm] at h
      cases h
  · intro h
    rw [bucketAfter?, h, Option.bind_none]

end Notices

namespace RateLimiter

/-- The limiter knows nothing of an endpoint exactly if no response to it named a bucket. Else it knows the
bucket that the last such response named, as the last response that named it described it. -/
theorem bucketFor_saved (past : List Notice) (e : Endpoint) :
    ((after past).bucketFor e = none ↔ ∀ n ∈ past, n.endpoint = e → ∀ id, ¬n.Names id) ∧
    ∀ n id, Latest (fun m => m.endpoint = e ∧ ∃ id, m.Names id) past n → n.Names id →
      ∃ m b, Latest (·.Names id) past m ∧ (after past).bucketFor e = some b ∧ m.Describes b := by
  rw [bucketFor_after, bucketAfter?_eq_none_iff, idFor?_eq_none_iff]
  refine ⟨Iff.rfl, fun n id hlatest hid => ?_⟩
  have hn : n ∈ past := by
    obtain ⟨before, after, rfl, -⟩ := hlatest
    exact List.mem_append_right _ List.mem_cons_self
  obtain ⟨m, hm, hbucket⟩ := bucketNamed?_of_mem hn hid
  refine ⟨m, m.bucket, hm, ?_, m.describes_bucket⟩
  rw [bucketAfter?, idFor?_of_latest hlatest hid, Option.bind_some, hbucket]

def sharedPast : List Notice := [
  ⟨("channels/1", "GET"), [("X-RateLimit-Bucket", "abcd"), ("x-ratelimit-limit", "5"),
    ("x-ratelimit-remaining", "0"), ("x-ratelimit-reset-after", "1.5")], 0⟩,
  ⟨("channels/2", "GET"), [("x-ratelimit-bucket", "abcd"), ("x-ratelimit-remaining", "-1"),
    ("x-ratelimit-reset-after", "-3")], 7⟩,
  ⟨("channels/1", "GET"), [("x-ratelimit-limit", "9")], 8⟩]

theorem sharedPast_bucketFor_saved :
    (Latest (fun m => m.endpoint = ("channels/1", "GET") ∧ ∃ id, m.Names id) sharedPast sharedPast[0] ∧
      sharedPast[0].Names "abcd") ∧
    (after sharedPast).bucketFor ("channels/1", "GET") = some ⟨1, 1, 0, 7⟩ ∧
      ∃ m, Latest (·.Names "abcd") sharedPast m ∧ m.Describes ⟨1, 1, 0, 7⟩ := by
  have hid : sharedPast[0].Names "abcd" := Notice.bucketId?_eq_some_iff.mp (by decide)
  have hunnamed : ∀ id, ¬sharedPast[2].Names id := Notice.bucketId?_eq_none_iff.mp (by decide)
  have hlatest : Latest (fun m => m.endpoint = ("channels/1", "GET") ∧ ∃ id, m.Names id) sharedPast
      sharedPast[0] := by
    refine ⟨[], [sharedPast[1], sharedPast[2]], rfl, ⟨rfl, "abcd", hid⟩, ?_⟩
    rw [List.forall_mem_cons, List.forall_mem_singleton]
    exact ⟨fun h => absurd h.1 (by decide), fun ⟨_, id, h⟩ => hunnamed id h⟩
  obtain ⟨m, b, hm, hb, hdescribes⟩ := (bucketFor_saved sharedPast ("channels/1", "GET")).2 _ _ hlatest hid
  have hknown : (after sharedPast).bucketFor ("channels/1", "GET") = some ⟨1, 1, 0, 7⟩ := by decide +kernel
  obtain rfl := Option.some.inj (hb.symm.trans hknown)
  exact ⟨⟨hlatest, hid⟩, hknown, m, hm, hdescribes⟩

end RateLimiter

end DiscordBot.RateLimit
