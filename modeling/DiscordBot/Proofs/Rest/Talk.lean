import DiscordBot.Proofs.Rest.Program
import Mathlib.Data.List.Perm.Basic

/-! Programs in conversation with a server. The calls of a batch are sent and answered in any order, and the
first that fails ends it. To make them one after another is one of the ways. -/

namespace DiscordBot.Rest

variable {σ α : Type}

inductive Event where
  | sent (call : Call)
  | answered (call : Call) (outcome : Outcome)

namespace Event

def call : Event → Call
  | sent c => c
  | answered c _ => c

def sent? : Event → Option Call
  | sent c => some c
  | answered _ _ => none

def exchange (x : Call × Option Json) : List Event := [sent x.1, answered x.1 (.ok x.2)]

def Goes (x : Event) : Prop := ∀ c outcome, x = answered c outcome → outcome.isOk = true

end Event

inductive Request where
  | due (step : Except BotError Call)
  | pending (call : Call)
  | answered (call : Call) (body : Option Json)

namespace Request

def step : Request → Except BotError Call
  | due step => step
  | pending c => .ok c
  | answered c _ => .ok c

def events : Request → List Event
  | due _ => []
  | pending c => [.sent c]
  | answered c body => Event.exchange (c, body)

end Request

inductive Talk (α : Type) where
  | ended (result : Result BotError α)
  | waits (requests : List Request) (next : Except BotError (List (Option Json)) → Program α)

def Program.talk : Program α → Talk α
  | ended result => .ended (.ofExcept result)
  | asks batch next => .waits (batch.map .due) next

namespace Talk

inductive Step : Talk α → List Event → Talk α → Prop
  | sends (xs ys : List Request) {c : Call} {next} :
      Step (waits (xs ++ .due (.ok c) :: ys) next) [.sent c] (waits (xs ++ .pending c :: ys) next)
  | impossible (xs ys : List Request) {e : BotError} {next} :
      Step (waits (xs ++ .due (.error e) :: ys) next) [] (next (.error e)).talk
  | answers (xs ys : List Request) {c : Call} (body : Option Json) {next} :
      Step (waits (xs ++ .pending c :: ys) next) [.answered c (.ok body)]
        (waits (xs ++ .answered c body :: ys) next)
  | fails (xs ys : List Request) {c : Call} (e : BotError) {next} :
      Step (waits (xs ++ .pending c :: ys) next) [.answered c (.error e)] (next (.error e)).talk
  | overflows (xs ys : List Request) {c : Call} {next} :
      Step (waits (xs ++ .pending c :: ys) next) [.answered c .overflow] (ended .overflow)
  | completes {answered : List (Call × Option Json)} {next} :
      Step (waits (answered.map fun x => .answered x.1 x.2) next) []
        (next (.ok (answered.map Prod.snd))).talk

/-- Steps one after another, and all that happens in them. -/
inductive Course (start : Talk α) : List Event → Talk α → Prop
  | here : Course start [] start
  | step {es fs : List Event} {a b : Talk α} : Course start es a → Step a fs b → Course start (es ++ fs) b

variable {a b c : Talk α} {es fs : List Event}

lemma Course.single (h : Step a es b) : Course a es b := .step .here h

lemma Course.trans (h : Course a es b) (h' : Course b fs c) : Course a (es ++ fs) c := by
  induction h' with
  | here =>
    rw [List.append_nil]
    exact h
  | step _ hstep ih =>
    rw [← List.append_assoc]
    exact ih.step hstep

lemma Course.of_ended {result : Result BotError α} (h : Course (ended result) es b) :
    es = [] ∧ b = ended result := by
  induction h with
  | here => exact ⟨rfl, rfl⟩
  | step _ hstep ih =>
    obtain ⟨-, rfl⟩ := ih
    cases hstep

end Talk

structure Open (batch : List (Except BotError Call)) (requests : List Request) (es : List Event) : Prop where
  steps : requests.map Request.step = batch
  events : es.Perm (requests.flatMap Request.events)
  order : ∀ c outcome xs, xs ++ [.answered c outcome] <+: es → .sent c ∈ xs

inductive Round (batch : List (Except BotError Call)) :
    List Event → Result BotError (List (Option Json)) → Prop
  | complete {es : List Event} (answered : List (Call × Option Json)) :
      Open batch (answered.map fun x => .answered x.1 x.2) es →
      Round batch es (.ok (answered.map Prod.snd))
  | impossible {es : List Event} {requests : List Request} {e : BotError} :
      Open batch requests es → .error e ∈ batch → Round batch es (.error e)
  | failed {es : List Event} {requests : List Request} {c : Call} {e : BotError} :
      Open batch requests es → .pending c ∈ requests →
      Round batch (es ++ [.answered c (.error e)]) (.error e)
  | overflow {es : List Event} {requests : List Request} {c : Call} :
      Open batch requests es → .pending c ∈ requests →
      Round batch (es ++ [.answered c .overflow]) .overflow

section Open

variable {batch : List (Except BotError Call)} {requests : List Request} {es : List Event}
  {result : Result BotError (List (Option Json))}

lemma open_begin (batch : List (Except BotError Call)) : Open batch (batch.map .due) [] where
  steps := by
    rw [List.map_map]
    exact List.map_id batch
  events := by
    rw [List.flatMap_map]
    exact .of_eq (List.flatMap_eq_nil_iff.mpr fun _ _ => rfl).symm
  order c outcome xs h := absurd (List.prefix_nil.mp h) (by simp)

lemma Open.sent_of_pending (h : Open batch requests es) {c : Call} (hc : .pending c ∈ requests) :
    .sent c ∈ es :=
  h.events.mem_iff.mpr (List.mem_flatMap.mpr ⟨_, hc, List.mem_singleton_self _⟩)

lemma Open.advance {xs ys : List Request} {r r' : Request} {x : Event}
    (h : Open batch (xs ++ r :: ys) es) (hstep : r'.step = r.step) (hevents : r'.events = r.events ++ [x])
    (hsent : ∀ c outcome, x = .answered c outcome → .sent c ∈ es) :
    Open batch (xs ++ r' :: ys) (es ++ [x]) where
  steps := by
    rw [← h.steps, List.map_append, List.map_append, List.map_cons, List.map_cons, hstep]
  events := by
    refine (h.events.append_right [x]).trans ?_
    simp only [List.flatMap_append, List.flatMap_cons, hevents, List.append_assoc]
    exact ((List.perm_append_comm.append_left _).append_left _)
  order c outcome zs hzs := by
    rcases List.prefix_concat_iff.mp hzs with heq | hbefore
    · obtain ⟨rfl, hx⟩ := List.append_inj' heq rfl
      exact hsent c outcome (List.singleton_inj.mp hx).symm
    · exact h.order c outcome zs hbefore

lemma Open.of_mem (h : Open batch requests es) {x : Event} (hx : x ∈ es) :
    x.Goes ∧ .ok x.call ∈ batch := by
  obtain ⟨r, hr, hxr⟩ := List.mem_flatMap.mp (h.events.mem_iff.mp hx)
  have hstep : r.step ∈ batch := h.steps ▸ List.mem_map_of_mem hr
  cases r with
  | due step => cases hxr
  | pending c =>
    obtain rfl := List.mem_singleton.mp hxr
    exact ⟨nofun, hstep⟩
  | answered c body =>
    rcases List.mem_pair.mp hxr with rfl | rfl
    · exact ⟨nofun, hstep⟩
    · refine ⟨fun d outcome h => ?_, hstep⟩
      cases h
      rfl

lemma Open.single {c : Call} (h : Open [.ok c] requests es) :
    (requests = [.due (.ok c)] ∧ es = []) ∨ (requests = [.pending c] ∧ es = [.sent c]) ∨
      ∃ body, requests = [.answered c body] ∧ es = Event.exchange (c, body) := by
  obtain ⟨r, rfl, hr⟩ := List.map_eq_singleton_iff.mp h.steps
  have hevents : es.Perm r.events := by
    simpa only [List.flatMap_cons, List.flatMap_nil, List.append_nil] using h.events
  cases r with
  | due step =>
    cases hr
    exact .inl ⟨rfl, hevents.eq_nil⟩
  | pending d =>
    cases hr
    exact .inr (.inl ⟨rfl, List.perm_singleton.mp hevents⟩)
  | answered d body =>
    cases hr
    refine .inr (.inr ⟨body, rfl, ?_⟩)
    obtain ⟨x, y, rfl⟩ := List.length_eq_two.mp hevents.length_eq
    rcases List.mem_pair.mp (hevents.mem_iff.mp List.mem_cons_self) with rfl | rfl
    · rw [List.singleton_perm_singleton.mp hevents.cons_inv]
      rfl
    · exact absurd (h.order c _ [] ⟨[y], rfl⟩) List.not_mem_nil

end Open

namespace Round

variable {batch : List (Except BotError Call)} {es : List Event}
  {result : Result BotError (List (Option Json))}

lemma of_mem (h : Round batch es result) {x : Event} (hx : x ∈ es) : .ok x.call ∈ batch := by
  cases h with
  | complete answered hopen => exact (hopen.of_mem hx).2
  | impossible hopen _ => exact (hopen.of_mem hx).2
  | failed hopen hpending =>
    rcases List.mem_append.mp hx with hx | hx
    · exact (hopen.of_mem hx).2
    · obtain rfl := List.mem_singleton.mp hx
      exact (hopen.of_mem (hopen.sent_of_pending hpending)).2
  | overflow hopen hpending =>
    rcases List.mem_append.mp hx with hx | hx
    · exact (hopen.of_mem hx).2
    · obtain rfl := List.mem_singleton.mp hx
      exact (hopen.of_mem (hopen.sent_of_pending hpending)).2

lemma of_ok {bodies : List (Option Json)} (h : Round batch es (.ok bodies)) :
    ∃ answered : List (Call × Option Json), batch = answered.map (fun x => .ok x.1) ∧
      es.Perm (answered.flatMap Event.exchange) ∧ bodies = answered.map Prod.snd := by
  cases h with
  | complete answered hopen =>
    refine ⟨answered, ?_, ?_, rfl⟩
    · rw [← hopen.steps, List.map_map]
      rfl
    · refine hopen.events.trans (.of_eq ?_)
      rw [List.flatMap_map]
      rfl

lemma of_error {e : BotError} (h : Round batch es (.error e)) :
    .error e ∈ batch ∨ ∃ c, es.getLast? = some (.answered c (.error e)) := by
  cases h with
  | impossible _ himpossible => exact .inl himpossible
  | failed => exact .inr ⟨_, List.getLast?_concat⟩

lemma of_overflow (h : Round batch es .overflow) : ∃ c, es.getLast? = some (.answered c .overflow) := by
  cases h with
  | overflow => exact ⟨_, List.getLast?_concat⟩

lemma single {c : Call} (h : Round [.ok c] es result) :
    ∃ outcome, es = [.sent c, .answered c outcome] ∧
      result = outcome.map fun body => [body] := by
  cases h with
  | complete answered hopen =>
    rcases hopen.single with ⟨hnone, -⟩ | ⟨hnone, -⟩ | ⟨body, hanswered, rfl⟩
    · obtain ⟨x, -, hx⟩ := List.map_eq_singleton_iff.mp hnone
      cases hx
    · obtain ⟨x, -, hx⟩ := List.map_eq_singleton_iff.mp hnone
      cases hx
    · obtain ⟨x, rfl, hx⟩ := List.map_eq_singleton_iff.mp hanswered
      cases hx
      exact ⟨.ok x.2, rfl, rfl⟩
  | impossible _ himpossible => cases List.mem_singleton.mp himpossible
  | failed hopen hpending =>
    rcases hopen.single with ⟨rfl, rfl⟩ | ⟨rfl, rfl⟩ | ⟨body, rfl, rfl⟩ <;> cases List.mem_singleton.mp hpending
    exact ⟨_, rfl, rfl⟩
  | overflow hopen hpending =>
    rcases hopen.single with ⟨rfl, rfl⟩ | ⟨rfl, rfl⟩ | ⟨body, rfl, rfl⟩ <;> cases List.mem_singleton.mp hpending
    exact ⟨_, rfl, rfl⟩

lemma of_answered (h : Round batch es result) {c : Call} {outcome : Outcome}
    (hx : .answered c outcome ∈ es) (hbad : outcome.isOk = false) :
    (result.map fun _ => ()) = (outcome.map fun _ => ()) ∧ es.getLast? = some (.answered c outcome) := by
  have hnot {requests : List Request} {fs : List Event} (hopen : Open batch requests fs) :
      .answered c outcome ∉ fs := by
    intro hmem
    rw [(hopen.of_mem hmem).1 c outcome rfl] at hbad
    cases hbad
  cases h with
  | complete answered hopen => exact absurd hx (hnot hopen)
  | impossible hopen _ => exact absurd hx (hnot hopen)
  | failed hopen _ =>
    rcases List.mem_append.mp hx with hx | hx
    · exact absurd hx (hnot hopen)
    · cases List.mem_singleton.mp hx
      exact ⟨rfl, List.getLast?_concat⟩
  | overflow hopen _ =>
    rcases List.mem_append.mp hx with hx | hx
    · exact absurd hx (hnot hopen)
    · cases List.mem_singleton.mp hx
      exact ⟨rfl, List.getLast?_concat⟩

end Round

inductive Begun (batch : List (Except BotError Call))
    (next : Except BotError (List (Option Json)) → Program α) : List Event → Talk α → Prop
  | waiting {es : List Event} {requests : List Request} :
      Open batch requests es → Begun batch next es (.waits requests next)
  | answered {es fs : List Event} {bodies : List (Option Json)} {b : Talk α} :
      Round batch es (.ok bodies) → (next (.ok bodies)).talk.Course fs b → Begun batch next (es ++ fs) b
  | failed {es fs : List Event} {e : BotError} {b : Talk α} :
      Round batch es (.error e) → (next (.error e)).talk.Course fs b → Begun batch next (es ++ fs) b
  | overflow {es : List Event} : Round batch es .overflow → Begun batch next es (.ended .overflow)

lemma Begun.step {batch : List (Except BotError Call)}
    {next : Except BotError (List (Option Json)) → Program α} {es fs : List Event} {a b : Talk α}
    (h : Begun batch next es a) (hstep : a.Step fs b) : Begun batch next (es ++ fs) b := by
  cases h with
  | waiting hopen =>
    cases hstep with
    | sends xs ys => exact .waiting (hopen.advance rfl rfl nofun)
    | answers xs ys body =>
      have hsent := hopen.sent_of_pending List.mem_append_cons_self
      refine .waiting (hopen.advance rfl rfl fun d outcome h => ?_)
      cases h
      exact hsent
    | impossible xs ys =>
      refine .failed (.impossible hopen ?_) .here
      rw [← hopen.steps]
      exact List.mem_map.mpr ⟨_, List.mem_append_cons_self, rfl⟩
    | fails xs ys e =>
      rw [← List.append_nil (es ++ _)]
      exact .failed (.failed hopen List.mem_append_cons_self) .here
    | overflows xs ys => exact .overflow (.overflow hopen List.mem_append_cons_self)
    | completes =>
      rw [List.append_nil, ← List.append_nil es]
      exact .answered (.complete _ hopen) .here
  | answered hround hcourse =>
    rw [List.append_assoc]
    exact .answered hround (hcourse.step hstep)
  | failed hround hcourse =>
    rw [List.append_assoc]
    exact .failed hround (hcourse.step hstep)
  | overflow => cases hstep

theorem Talk.Course.begun {batch : List (Except BotError Call)}
    {next : Except BotError (List (Option Json)) → Program α} {es : List Event} {b : Talk α}
    (h : (Program.asks batch next).talk.Course es b) : Begun batch next es b := by
  induction h with
  | here => exact .waiting (open_begin batch)
  | step _ hstep ih => exact ih.step hstep

section InTurn

variable {server : Server σ} {t u : Session σ}

/-- What happens if calls are made one after another: each is sent when the one before is answered. -/
inductive InTurn (server : Server σ) : Session σ → List Event → Session σ → Prop
  | nil {t : Session σ} : InTurn server t [] t
  | cons {t u : Session σ} {c : Call} {outcome : Outcome} {state : σ} {es : List Event} :
      server t.state c = (outcome, state) → InTurn server ⟨state, t.calls ++ [c]⟩ es u →
      InTurn server t (.sent c :: .answered c outcome :: es) u

lemma InTurn.calls {es : List Event} (h : InTurn server t es u) :
    u.calls = t.calls ++ es.filterMap Event.sent? := by
  induction h with
  | nil => exact (List.append_nil _).symm
  | cons _ _ ih =>
    rw [ih, List.append_assoc]
    rfl

lemma InTurn.append {v : Session σ} {es fs : List Event} (h : InTurn server t es u)
    (h' : InTurn server u fs v) : InTurn server t (es ++ fs) v := by
  induction h with
  | nil => exact h'
  | cons hanswer _ ih => exact .cons hanswer (ih h')

lemma course_answers (server : Server σ) (t : Session σ) (batch : List (Except BotError Call))
    (got : List (Call × Option Json)) (next : Except BotError (List (Option Json)) → Program α) :
    ∃ es, InTurn server t es (answers server batch t).2 ∧
      Talk.Course (.waits (got.map (fun x => .answered x.1 x.2) ++ batch.map .due) next) es
        (match (answers server batch t).1 with
          | .ok bodies => (next (.ok (got.map Prod.snd ++ bodies))).talk
          | .error e => (next (.error e)).talk
          | .overflow => .ended .overflow) := by
  -- By induction on the calls that are still due, with the answers so far in `got`.
  induction batch generalizing t got with
  | nil =>
    refine ⟨[], .nil, .single ?_⟩
    rw [List.map_nil, List.append_nil]
    dsimp only [answers]
    rw [List.append_nil]
    exact .completes
  | cons step batch ih =>
    cases step with
    | error e => exact ⟨[], .nil, .single (.impossible _ _)⟩
    | ok c =>
      cases hc : server t.state c with
      | mk outcome state =>
        cases outcome with
        | error e =>
          rw [answers_cons_error _ hc]
          exact ⟨_, .cons hc .nil, .trans (.single (.sends _ _)) (.single (.fails _ _ e))⟩
        | overflow =>
          rw [answers_cons_overflow _ hc]
          exact ⟨_, .cons hc .nil, .trans (.single (.sends _ _)) (.single (.overflows _ _))⟩
        | ok body =>
          rw [answers_cons_ok _ hc]
          obtain ⟨es, hturn, hcourse⟩ := ih ⟨state, t.calls ++ [c]⟩ (got ++ [(c, body)])
          refine ⟨_, .cons hc hturn,
            .trans (.single (.sends _ _)) (.trans (.single (.answers _ _ body)) ?_)⟩
          rw [List.map_append, List.append_assoc] at hcourse
          rw [List.map_append] at hcourse
          cases hrest : (answers server batch ⟨state, t.calls ++ [c]⟩).1 with
          | ok bodies =>
            rw [hrest] at hcourse
            dsimp only at hcourse
            rw [List.append_assoc] at hcourse
            exact hcourse
          | error e =>
            rw [hrest] at hcourse
            exact hcourse
          | overflow =>
            rw [hrest] at hcourse
            exact hcourse

/-- To make the calls of a program in turn is one of its courses. -/
theorem course_run (p : Program α) (server : Server σ) (t : Session σ) :
    ∃ es, InTurn server t es (p.run server t).2 ∧ p.talk.Course es (.ended (p.run server t).1) := by
  induction p generalizing t with
  | ended result => exact ⟨[], .nil, .here⟩
  | asks batch next ih =>
    obtain ⟨es, hturn, hcourse⟩ := course_answers server t batch [] next
    rw [Program.run_asks]
    generalize answers server batch t = round at hturn hcourse ⊢
    obtain ⟨answered, u⟩ := round
    cases answered with
    | ok bodies =>
      obtain ⟨fs, hturn', hcourse'⟩ := ih (.ok bodies) u
      exact ⟨es ++ fs, hturn.append hturn', hcourse.trans hcourse'⟩
    | error e =>
      obtain ⟨fs, hturn', hcourse'⟩ := ih (.error e) u
      exact ⟨es ++ fs, hturn.append hturn', hcourse.trans hcourse'⟩
    | overflow => exact ⟨es, hturn, hcourse⟩

end InTurn

end DiscordBot.Rest
