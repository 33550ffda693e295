import TimedLock.Handle

/-!
# Locks of a coordination service

The service offers two building blocks, a lock and a counter of leases. Both are asked to wait in
the same way, and both tell an expired wait by a fault of its own kind.
-/

namespace TimedLock.Lock

/-- What the service offers for one path. -/
structure Recipe (σ : Type) where
  acquire : Wait → Run σ Value
  release : Run σ Value
  /-- Whether the service has granted the lock. Only a counter of leases is asked. -/
  isGranted : Run σ Value

/-- Asks the service for a time. An expired wait is an answer like any other: no. -/
def Recipe.acquireWithin {σ : Type} [Journal σ] (recipe : Recipe σ) (path : Value) (time : Value)
    (unit : TimeUnit) : Run σ Value :=
  let ask : Run σ Value := do
    let wait ← .ofExcept (Wait.ofTime time unit)
    recipe.acquire wait
  ask.recover (fun fault => fault.kind = .waitExpired) fun _ => do
    .note .debug .mutexes s!"Timed out waiting for lock_path={path.display}"
    pure (.bool false)

end TimedLock.Lock
