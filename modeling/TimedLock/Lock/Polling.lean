import TimedLock.Run

/-!
# Polling until a deadline

A lock that cannot be waited for is tried again and again. Between two tries the poller sleeps for
the poll interval, or for the time that is left if that is shorter; it gives up when a try fails
and no time is left. So there is always a last try at the deadline or after it.

The loop is stated for any measure of time `τ` and any form of poll interval `π`.
-/

namespace TimedLock.Lock

/-- How waiting is measured. -/
class Pace (τ : Type) (π : outParam Type) where
  /-- The time from `now` to `deadline`. -/
  left : (deadline now : τ) → τ
  /-- Whether no time is left. -/
  isOver : τ → Bool
  /-- The interval, or the time that is left if that is shorter. -/
  pause : (interval : π) → (left : τ) → Except Fault π

/-- What a poller does in its world. -/
structure Poller (σ τ π : Type) where
  /-- One try. -/
  attempt : Run σ Bool
  now : Run σ τ
  sleep : π → Run σ Unit

namespace Poller

variable {σ τ π : Type} [Pace τ π]

/-- One try and, where it failed before the deadline, the sleep after it. -/
def step (poller : Poller σ τ π) (interval : π) (deadline : τ) : Run σ (Option Bool) := do
  if ← poller.attempt then pure (some true)
  else
    let now ← poller.now
    let left := Pace.left deadline now
    if Pace.isOver left then pure (some false)
    else
      let pause ← .ofExcept (Pace.pause interval left)
      poller.sleep pause
      pure none

/-- Tries until a try succeeds or the deadline has passed, at most `bound` times. -/
def run (poller : Poller σ τ π) (interval : π) (deadline : τ) (bound : Nat) : Run σ Bool :=
  Run.untilSome (poller.step interval deadline) bound

end Poller

end TimedLock.Lock
