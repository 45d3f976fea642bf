import DiscordBot.Time.Duration

/-! Instants of a clock, which ends, and what a computation comes to that may run over its end. -/

namespace DiscordBot

namespace Time

abbrev Instant := Nat

def greatestInstant : Instant := 0x8000000000000000 * nanosPerSecond - 1

def addTo? (t : Instant) (d : Duration) : Option Instant :=
  if t + d ≤ greatestInstant then some (t + d) else none

end Time

/-- How a computation ends. One that runs over the end of the clock has no result, not even an error. -/
inductive Result (ε α : Type) where
  | ok (value : α)
  | error (cause : ε)
  | overflow
  deriving DecidableEq, Repr, Inhabited

namespace Result

variable {ε ε' α β : Type}

def ofExcept : Except ε α → Result ε α
  | .ok a => .ok a
  | .error e => .error e

def isOk : Result ε α → Bool
  | ok _ => true
  | _ => false

def map (f : α → β) : Result ε α → Result ε β
  | ok a => ok (f a)
  | error e => error e
  | overflow => overflow

def mapError (f : ε → ε') : Result ε α → Result ε' α
  | ok a => ok a
  | error e => error (f e)
  | overflow => overflow

@[simp] theorem mapError_eq_overflow {x : Result ε α} {f : ε → ε'} :
    x.mapError f = overflow ↔ x = overflow := by
  cases x <;> simp [mapError]

theorem mapError_eq_error {x : Result ε α} {f : ε → ε'} {e : ε'} :
    x.mapError f = error e ↔ ∃ e', x = error e' ∧ f e' = e := by
  cases x <;> simp [mapError]

@[simp] theorem isOk_mapError {x : Result ε α} {f : ε → ε'} : (x.mapError f).isOk = x.isOk := by
  cases x <;> rfl

def bind (x : Result ε α) (f : α → Result ε β) : Result ε β :=
  match x with
  | ok a => f a
  | error e => error e
  | overflow => overflow

instance : Monad (Result ε) where
  pure := ok
  bind := bind

end Result

end DiscordBot
