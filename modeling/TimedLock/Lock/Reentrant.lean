import TimedLock.Lock.Recipe

/-!
# The re-entrant mutex

A mutex that belongs to a thread. Its owner may acquire it again without asking the service, and
gives it back to the service with the last matching release. No other thread may release it.
-/

namespace TimedLock.Lock

/-- Who owns a mutex, and how many acquisitions have not been released. -/
structure Ownership where
  owner : Option Thread
  holds : Nat
deriving DecidableEq, Repr

/-- A mutex that nobody owns. -/
def Ownership.free : Ownership := ⟨none, 0⟩

/-- A re-entrant mutex. -/
structure Reentrant (σ : Type) where
  path : Value
  recipe : Recipe σ
  ownership : Slot σ Ownership

namespace Reentrant

variable {σ : Type} [Journal σ]

/-- Obtains the mutex for thread `me`. Only a thread that does not own it asks the service. -/
def acquire (lock : Reentrant σ) (me : Thread) (time : Value) (unit : TimeUnit) : Run σ Value := do
  let now ← lock.ownership.get
  if now.owner = some me then
    lock.ownership.set { now with holds := now.holds + 1 }
    pure (.bool true)
  else
    let obtained ← lock.recipe.acquireWithin lock.path time unit
    if obtained.isTruthy then lock.ownership.set ⟨some me, 1⟩
    pure obtained

/-- Releases the mutex for thread `me`. The last release gives it back to the service. -/
def release (lock : Reentrant σ) (me : Thread) : Run σ Value := do
  let now ← lock.ownership.get
  if now.owner ≠ some me then .refuse (.foreignRelease lock.path)
  else if 1 < now.holds then
    lock.ownership.set { now with holds := now.holds - 1 }
    pure .null
  else
    lock.ownership.set .free
    let _ ← lock.recipe.release
    pure .null

/-- Whether any thread holds the mutex. -/
def isHeld (lock : Reentrant σ) : Run σ Value := do
  let now ← lock.ownership.get
  pure (.bool (0 < now.holds))

/-- The mutex as it is shown in messages. -/
def describe (lock : Reentrant σ) (s : σ) : String :=
  let path := lock.path.literal
  let holds := (lock.ownership.read s).holds
  s!"ZooKeeperMutex(lock_path={path}, hold_count={holds})"

/-- The mutex as thread `me` sees it. -/
def handle (lock : Reentrant σ) (me : Thread) : Handle σ where
  acquire := lock.acquire me
  release := lock.release me
  isHeld := lock.isHeld
  describe := lock.describe

end Reentrant

end TimedLock.Lock
