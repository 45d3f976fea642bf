import DiscordBot.Decimal.Dyadic

/-! Lengths of time in whole nanoseconds, and their relation to seconds given as floats. -/

namespace DiscordBot.Time

def nanosPerSecond : Nat := 1000000000

def nanosPerMilli : Nat := 1000000

abbrev Duration := Nat

def Duration.greatest : Duration := 0x10000000000000000 * nanosPerSecond - 1

def Duration.ofMillis (ms : Nat) : Duration := ms * nanosPerMilli

def Duration.ofWholeSeconds (s : Nat) : Duration := s * nanosPerSecond

/-- The nearest length, ties to even. There is none for negative numbers, for numbers from `2^64`
seconds on and for those that are not finite; a negative zero is zero. -/
def Duration.ofSeconds? (x : Float) : Option Duration :=
  match Decimal.FloatShape.of x with
  | .finite v =>
    if v.negative && v.mantissa != 0 then none
    else
      let r := Decimal.Ratio.scaled v.mantissa v.exponent 0
      if 0x10000000000000000 * r.den ≤ r.num then none
      else some (Decimal.Ratio.mk (r.num * nanosPerSecond) r.den).roundEven
  | _ => none

def Duration.toSeconds (d : Duration) : Float :=
  -- Whole seconds and the fraction are turned into floats apart and then added.
  Float.ofNat (d / nanosPerSecond) + Float.ofNat (d % nanosPerSecond) / 1e9

def Duration.ceilMillis (d : Duration) : Nat := (d + nanosPerMilli - 1) / nanosPerMilli

def Duration.nextTick (d : Duration) : Duration := .ofMillis d.ceilMillis

theorem Duration.nextTick_bounds (d : Duration) : d ≤ nextTick d ∧ nextTick d < d + nanosPerMilli := by
  have hround : ∀ n : Nat, n ≤ (n + 1000000 - 1) / 1000000 * 1000000 ∧
      (n + 1000000 - 1) / 1000000 * 1000000 < n + 1000000 := by omega
  exact hround d

end DiscordBot.Time
