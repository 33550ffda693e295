import TimedLock.Lock.Recipe

/-!
# The single-lease mutex

A mutex that belongs to the process. It is not re-entrant, any thread may release it, and the only
record of who holds it is the service's own.
-/

namespace TimedLock.Lock

/-- A mutex over a counter with a single lease. -/
structure Lease (σ : Type) where
  path : Value
  recipe : Recipe σ

namespace Lease

variable {σ : Type} [Journal σ]

/-- Obtains the lease. While it is granted nobody gets it again. -/
def acquire (lock : Lease σ) (time : Value) (unit : TimeUnit) : Run σ Value := do
  let granted ← lock.recipe.isGranted
  if granted.isTruthy then
    .note .debug .mutexes
      s!"Semaphore mutex already held, not re-entrant lock_path={lock.path.display}"
    pure (.bool false)
  else lock.recipe.acquireWithin lock.path time unit

/-- Gives the lease back. -/
def release (lock : Lease σ) : Run σ Value := do
  let granted ← lock.recipe.isGranted
  if granted.isTruthy then
    let _ ← lock.recipe.release
    pure .null
  else .refuse (.leaseNotHeld lock.path)

/-- Whether the lease is granted. -/
def isHeld (lock : Lease σ) : Run σ Value := do
  let granted ← lock.recipe.isGranted
  pure (.bool granted.isTruthy)

/-- The mutex as it is shown in messages. -/
def describe (lock : Lease σ) : String :=
  let path := lock.path.literal
  s!"ZooKeeperSemaphoreMutex(lock_path={path})"

/-- The mutex as a handle, the same on every thread. -/
def handle (lock : Lease σ) : Handle σ where
  acquire := lock.acquire
  release := lock.release
  isHeld := lock.isHeld
  describe _ := lock.describe

end Lease

end TimedLock.Lock
