import DiscordBot.Time.Clock

/-! A limit on the number of calls within a period that moves along with the time. -/

namespace DiscordBot.Cooldown

open Time (Instant)

/-- The allowed calls that may still count, the oldest first. -/
structure SlidingWindow where
  calls : List Instant := []
  deriving DecidableEq, Repr, Inhabited

namespace SlidingWindow

def prune (w : SlidingWindow) (now : Instant) (period : Time.Duration) : SlidingWindow :=
  ⟨w.calls.dropWhile fun t => decide (period ≤ now - t)⟩

def freeAt? (w : SlidingWindow) (now : Instant) (period : Time.Duration) : Option Instant :=
  Time.addTo? (w.calls.headD now) period

def hit (w : SlidingWindow) (now : Instant) (limit : Nat) (period : Time.Duration) :
    Result Time.Duration Unit × SlidingWindow :=
  let w := w.prune now period
  if limit ≤ w.calls.length then
    match w.freeAt? now period with
    | some t => (.error (t - now), w)
    | none => (.overflow, w)
  else (.ok (), ⟨w.calls ++ [now]⟩)

def size (w : SlidingWindow) : Nat := w.calls.length

def isEmpty (w : SlidingWindow) : Bool := w.calls.isEmpty

end SlidingWindow

end DiscordBot.Cooldown
