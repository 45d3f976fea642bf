import DiscordBot.Proofs.Sync.Leftovers
import DiscordBot.Proofs.Rest.Talk
import Mathlib.Logic.Function.Basic
import Mathlib.Logic.Relation

/-! However many callers start a sync at once, one of them brings the commands in line. -/

namespace DiscordBot

open Rest (Event Program Talk)

namespace CommandSync

variable {ι : Type} {s : CommandSync}

inductive Caller where
  | waiting
  | begun (events : List Event) (talk : Talk Unit)

structure Shared (ι : Type) where
  sync : CommandSync
  callers : ι → Caller

namespace Shared

def fresh (s : CommandSync) : Shared ι := ⟨s, fun _ => .waiting⟩

structure Led (s : CommandSync) (guilds : ι → List Snowflake) (first : Option ι) (m : Shared ι) : Prop where
  sync : m.sync = { s with started := m.sync.started }
  stays : s.started = true → m.sync.started = true
  begun : (∃ i, m.callers i ≠ .waiting) → m.sync.started = true
  leads : ∀ i, first = some i → s.started = false ∧
    ∃ events talk, m.callers i = .begun events talk ∧ (s.bringInLine (guilds i)).talk.Course events talk
  idle : ∀ i, first ≠ some i → m.callers i = .waiting ∨ m.callers i = .begun [] (.ended (.ok ()))

lemma led_fresh (s : CommandSync) (guilds : ι → List Snowflake) : Led s guilds none (fresh s) where
  sync := rfl
  stays := id
  begun := by
    rintro ⟨i, hi⟩
    exact absurd rfl hi
  leads i hi := by cases hi
  idle i _ := .inl rfl

variable [DecidableEq ι]

def moved (m : Shared ι) (sync : CommandSync) (i : ι) (caller : Caller) : Shared ι :=
  ⟨sync, Function.update m.callers i caller⟩

lemma moved_self (m : Shared ι) (sync : CommandSync) (i : ι) (caller : Caller) :
    (m.moved sync i caller).callers i = caller := by
  simp [moved]

lemma moved_of_ne {i j : ι} (m : Shared ι) (sync : CommandSync) (caller : Caller) (h : j ≠ i) :
    (m.moved sync i caller).callers j = m.callers j := by
  simp [moved, h]

inductive Step (guilds : ι → List Snowflake) : Shared ι → Shared ι → Prop
  | begins {m : Shared ι} (i : ι) : m.callers i = .waiting →
      Step guilds m (m.moved (m.sync.start (guilds i)).2 i (.begun [] (m.sync.start (guilds i)).1.talk))
  | goesOn {m : Shared ι} (i : ι) {events more : List Event} {talk talk' : Talk Unit} :
      m.callers i = .begun events talk → talk.Step more talk' →
      Step guilds m (m.moved m.sync i (.begun (events ++ more) talk'))

def Reaches (guilds : ι → List Snowflake) : Shared ι → Shared ι → Prop :=
  Relation.ReflTransGen (Step guilds)

variable {guilds : ι → List Snowflake} {m m' : Shared ι} {i : ι} {first : Option ι}

lemma Step.started (h : Step guilds m m') (hstarted : m.sync.started = true) : m'.sync.started = true := by
  cases h with
  | begins => rfl
  | goesOn => exact hstarted

lemma Led.late (hled : Led s guilds first m) (hi : m.callers i = .waiting) :
    Led s guilds first (m.moved { m.sync with started := true } i (.begun [] (.ended (.ok ())))) where
  sync := by
    change { m.sync with started := true } = _
    rw [hled.sync]
    rfl
  stays _ := rfl
  begun _ := rfl
  leads j hj := by
    obtain ⟨hfresh, events, talk, hbegun, hcourse⟩ := hled.leads j hj
    have hne : j ≠ i := by
      rintro rfl
      rw [hi] at hbegun
      cases hbegun
    refine ⟨hfresh, events, talk, ?_, hcourse⟩
    rw [m.moved_of_ne _ _ hne, hbegun]
  idle j hj := by
    by_cases hji : j = i
    · subst hji
      exact .inr (m.moved_self _ _ _)
    · rw [m.moved_of_ne _ _ hji]
      exact hled.idle j hj

lemma Led.lead (hled : Led s guilds first m) (hstarted : m.sync.started = false) :
    Led s guilds (some i) (m.moved { m.sync with started := true } i
      (.begun [] (m.sync.bringInLine (guilds i)).talk)) where
  sync := by
    change { m.sync with started := true } = _
    rw [hled.sync]
    rfl
  stays _ := rfl
  begun _ := rfl
  leads j hj := by
    cases hj
    have hfresh : s.started = false := by
      rw [← Bool.not_eq_true] at hstarted ⊢
      exact fun h => hstarted (hled.stays h)
    have hsame : m.sync = s := by
      rw [hled.sync, hstarted, ← hfresh]
    refine ⟨hfresh, [], _, m.moved_self _ _ _, ?_⟩
    rw [hsame]
    exact .here
  idle j hj := by
    have hne : j ≠ i := fun h => hj (congrArg some h.symm)
    rw [m.moved_of_ne _ _ hne]
    by_contra hnone
    have hbegun : m.callers j ≠ .waiting := fun h => hnone (.inl h)
    rw [hled.begun ⟨j, hbegun⟩] at hstarted
    cases hstarted

lemma Led.goOn (hled : Led s guilds first m) {events more : List Event} {talk talk' : Talk Unit}
    (hi : m.callers i = .begun events talk) (hstep : talk.Step more talk') :
    Led s guilds first (m.moved m.sync i (.begun (events ++ more) talk')) where
  sync := hled.sync
  stays := hled.stays
  begun _ := hled.begun ⟨i, by rw [hi]; nofun⟩
  leads j hj := by
    obtain ⟨hfresh, events', talk'', hbegun, hcourse⟩ := hled.leads j hj
    by_cases hji : j = i
    · subst hji
      rw [hi] at hbegun
      cases hbegun
      exact ⟨hfresh, _, _, m.moved_self _ _ _, hcourse.step hstep⟩
    · exact ⟨hfresh, events', talk'', by rw [m.moved_of_ne _ _ hji, hbegun], hcourse⟩
  idle j hj := by
    have hne : j ≠ i := by
      -- It could go on, which one that has returned cannot.
      rintro rfl
      rcases hled.idle j hj with hwaiting | hover
      · rw [hi] at hwaiting
        cases hwaiting
      · rw [hi] at hover
        cases hover
        cases hstep
    rw [m.moved_of_ne _ _ hne]
    exact hled.idle j hj

lemma Led.step (hled : Led s guilds first m) (h : Step guilds m m') : ∃ first, Led s guilds first m' := by
  cases h with
  | begins i hi =>
    cases hstarted : m.sync.started with
    | true =>
      rw [start, if_pos hstarted]
      exact ⟨first, hled.late hi⟩
    | false =>
      rw [start, if_neg (by simp [hstarted])]
      exact ⟨some i, hled.lead hstarted⟩
  | goesOn i hi hstep => exact ⟨first, hled.goOn hi hstep⟩

lemma exists_led (h : Reaches guilds (fresh s) m) : ∃ first, Led s guilds first m := by
  induction h with
  | refl => exact ⟨none, led_fresh s guilds⟩
  | tail _ hstep ih =>
    obtain ⟨first, hled⟩ := ih
    exact hled.step hstep

lemma Reaches.started (h : Reaches guilds m m') (hstarted : m.sync.started = true) :
    m'.sync.started = true := by
  induction h with
  | refl => exact hstarted
  | tail _ hstep ih => exact hstep.started ih

/-- However many start a sync, in whatever order they take their steps and whatever is answered, at most one
of them sends anything, and none if it has been started before. All others return without an error as soon as
they begin. Once one has begun, the sync says that it has been started, and never again that it has not. -/
theorem starts_once (h : Reaches guilds (fresh s) m) :
    (∃ first : Option ι,
      (∀ i, first = some i → s.started = false ∧
        ∃ events talk, m.callers i = .begun events talk ∧
          (s.bringInLine (guilds i)).talk.Course events talk) ∧
      ∀ i, first ≠ some i → m.callers i = .waiting ∨ m.callers i = .begun [] (.ended (.ok ()))) ∧
    ((∃ i, m.callers i ≠ .waiting) → m.sync.started = true) ∧
    ∀ m', Reaches guilds m m' → m.sync.started = true → m'.sync.started = true := by
  obtain ⟨first, hled⟩ := exists_led h
  refine ⟨⟨first, hled.leads, hled.idle⟩, hled.begun, ?_⟩
  intro m' hlater
  exact hlater.started

theorem two_start_once : ∃ m : Shared Bool, Reaches (fun _ => []) (fresh CommandStore.ping) m ∧
    m.callers true = .begun [.sent (CommandStore.ping.listCall none),
      .answered (CommandStore.ping.listCall none) (.error (.badRequest "list"))]
      (.ended (.error (.badRequest "list"))) ∧
    m.callers false = .begun [] (.ended (.ok ())) ∧ m.sync.started = true ∧
    ∀ m', Reaches (fun _ => []) m m' → m'.sync.started = true := by
  have hbegun : Reaches (fun _ : Bool => []) (fresh CommandStore.ping) _ := .single (.begins true rfl)
  have hsent := hbegun.tail (.goesOn true rfl (.sends [] []))
  have hjoined := hsent.tail (.begins false rfl)
  have hfailed := hjoined.tail (.goesOn true rfl (.fails [] [] (.badRequest "list")))
  obtain ⟨-, hstarted, hstays⟩ := starts_once hfailed
  have hnow := hstarted ⟨true, nofun⟩
  exact ⟨_, hfailed, rfl, rfl, hnow, fun m' h => hstays m' h hnow⟩

end Shared

end CommandSync

end DiscordBot
