import DiscordBot.Rest.Session
import Mathlib.Tactic.Common

/-! The laws of programs, and how they run with their calls made one after another. -/

namespace DiscordBot

namespace Result

variable {ε α β : Type} {x : Result ε α}

lemma isOk_iff : x.isOk = true ↔ ∃ a, x = .ok a := by
  cases x <;> simp [isOk]

lemma map_eq_ok {f : α → β} {b : β} : x.map f = .ok b ↔ ∃ a, x = .ok a ∧ f a = b := by
  cases x <;> simp [map]

lemma map_eq_error {f : α → β} {e : ε} : x.map f = .error e ↔ x = .error e := by
  cases x <;> simp [map]

lemma map_eq_overflow {f : α → β} : x.map f = .overflow ↔ x = .overflow := by
  cases x <;> simp [map]

lemma isOk_map {f : α → β} : (x.map f).isOk = x.isOk := by
  cases x <;> rfl

lemma map_map {γ : Type} (f : α → β) (g : β → γ) : (x.map f).map g = x.map fun a => g (f a) := by
  cases x <;> rfl

end Result

namespace Rest

variable {σ α β : Type} {server : Server σ} {s s' t : Session σ}

namespace Program

lemma asks_bind (batch : List (Except BotError Call))
    (next : Except BotError (List (Option Json)) → Program α) (f : α → Program β) :
    asks batch next >>= f = asks batch fun answers => next answers >>= f := rfl

lemma bind_pure_eq (p : Program α) : p >>= pure = p := by
  induction p with
  | ended result => cases result <;> rfl
  | asks batch next ih => exact congrArg (asks batch) (funext ih)

lemma bind_bind_eq {γ : Type} (p : Program α) (f : α → Program β) (g : β → Program γ) :
    p >>= f >>= g = p >>= fun a => f a >>= g := by
  induction p with
  | ended result => cases result <;> rfl
  | asks batch next ih => exact congrArg (asks batch) (funext ih)

instance : LawfulMonad Program := LawfulMonad.mk' Program bind_pure_eq (fun _ _ => rfl) bind_bind_eq

end Program

lemma lift_ok (a : α) : lift (.ok a) = (pure a : Program α) := rfl

section Answers

lemma answers_cons_ok {c : Call} {body : Option Json} {state : σ} (batch : List (Except BotError Call))
    (hc : server s.state c = (.ok body, state)) :
    answers server (.ok c :: batch) s =
      ((answers server batch ⟨state, s.calls ++ [c]⟩).1.map (body :: ·),
        (answers server batch ⟨state, s.calls ++ [c]⟩).2) := by
  rw [answers, hc]

lemma answers_cons_error {c : Call} {e : BotError} {state : σ} (batch : List (Except BotError Call))
    (hc : server s.state c = (.error e, state)) :
    answers server (.ok c :: batch) s = (.error e, ⟨state, s.calls ++ [c]⟩) := by
  rw [answers, hc]

lemma answers_cons_overflow {c : Call} {state : σ} (batch : List (Except BotError Call))
    (hc : server s.state c = (.overflow, state)) :
    answers server (.ok c :: batch) s = (.overflow, ⟨state, s.calls ++ [c]⟩) := by
  rw [answers, hc]

end Answers

namespace Program

lemma run_asks (batch : List (Except BotError Call))
    (next : Except BotError (List (Option Json)) → Program α) :
    (asks batch next).run server s = match answers server batch s with
      | (.ok bodies, t) => (next (.ok bodies)).run server t
      | (.error e, t) => (next (.error e)).run server t
      | (.overflow, t) => (.overflow, t) := by
  rcases h : answers server batch s with ⟨_ | _ | _, _⟩ <;> simp only [run, h]

lemma run_lift (x : Except BotError α) : (lift x).run server s = (.ofExcept x, s) := rfl

lemma run_bind (p : Program α) (f : α → Program β) :
    (p >>= f).run server s = match p.run server s with
      | (.ok a, t) => (f a).run server t
      | (.error e, t) => (.error e, t)
      | (.overflow, t) => (.overflow, t) := by
  induction p generalizing s with
  | ended result => cases result <;> rfl
  | asks batch next ih =>
    rw [asks_bind, run_asks, run_asks]
    obtain ⟨answered, t⟩ := answers server batch s
    cases answered with
    | ok bodies => exact ih (.ok bodies)
    | error e => exact ih (.error e)
    | overflow => rfl

lemma run_bind_congr {p q : Program α} (f : α → Program β) (h : p.run server s = q.run server s) :
    (p >>= f).run server s = (q >>= f).run server s := by
  rw [run_bind, run_bind, h]

lemma run_recover (p : Program α) (handle : BotError → Program α) :
    (recover p handle).run server s = match p.run server s with
      | (.ok a, t) => (.ok a, t)
      | (.error e, t) => (handle e).run server t
      | (.overflow, t) => (.overflow, t) := by
  induction p generalizing s with
  | ended result => cases result <;> rfl
  | asks batch next ih =>
    rw [recover, run_asks, run_asks]
    obtain ⟨answered, t⟩ := answers server batch s
    cases answered with
    | ok bodies => exact ih (.ok bodies)
    | error e => exact ih (.error e)
    | overflow => rfl

lemma run_askAll (batch : List (Except BotError Call)) :
    (askAll batch).run server s = answers server batch s := by
  rw [askAll, run_asks]
  obtain ⟨answered, t⟩ := answers server batch s
  cases answered <;> rfl

lemma run_call (c : Call) :
    (call c).run server s = ((server s.state c).1, ⟨(server s.state c).2, s.calls ++ [c]⟩) := by
  rw [call, run_bind, run_askAll]
  cases hc : server s.state c with
  | mk answer state =>
    cases answer with
    | ok body =>
      rw [answers_cons_ok _ hc]
      rfl
    | error e => rw [answers_cons_error _ hc]
    | overflow => rw [answers_cons_overflow _ hc]

lemma run_askAll_cons (step : Except BotError Call) (batch : List (Except BotError Call)) :
    (askAll (step :: batch)).run server s =
      (do
        let body ← lift step >>= call
        let bodies ← askAll batch
        pure (body :: bodies) : Program (List (Option Json))).run server s := by
  rw [run_askAll, run_bind, run_bind, run_lift]
  cases step with
  | error e => rfl
  | ok c =>
    dsimp only [Result.ofExcept]
    rw [run_call]
    cases hc : server s.state c with
    | mk answer state =>
      cases answer with
      | ok body =>
        dsimp only
        rw [answers_cons_ok _ hc, run_bind, run_askAll]
        rcases answers server batch ⟨state, s.calls ++ [c]⟩ with ⟨_ | _ | _, t⟩ <;> rfl
      | error e => rw [answers_cons_error _ hc]
      | overflow => rw [answers_cons_overflow _ hc]

lemma run_call_discard (c : Call) :
    (call c >>= fun _ => pure () : Program Unit).run server s =
      ((server s.state c).1.map fun _ => (), ⟨(server s.state c).2, s.calls ++ [c]⟩) := by
  rw [run_bind, run_call]
  cases (server s.state c).1 <;> rfl

lemma run_bind_eq_ok {p : Program α} {f : α → Program β} {b : β} :
    (p >>= f).run server s = (.ok b, s') ↔
      ∃ a t, p.run server s = (.ok a, t) ∧ (f a).run server t = (.ok b, s') := by
  rw [run_bind]
  obtain ⟨x, t⟩ := p.run server s
  cases x <;> simp

lemma run_call_eq_ok {c : Call} {body : Option Json} :
    (call c).run server s = (.ok body, s') ↔
      server s.state c = (.ok body, s'.state) ∧ s'.calls = s.calls ++ [c] := by
  obtain ⟨state, calls⟩ := s'
  rw [run_call, Prod.ext_iff, Prod.ext_iff]
  simp only [Session.mk.injEq, and_assoc, eq_comm (a := calls)]

end Program

end Rest

end DiscordBot
