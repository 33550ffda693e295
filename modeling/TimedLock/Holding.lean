import TimedLock.Handle

/-!
# Holding a lock

How locks are taken with a bounded wait, given back on every way out, and held around work.

* `acquire` ends without a fault exactly when the lock was obtained. A lock that fails to answer
  and a lock that answers too late are told apart by the kind of the fault.
* `releaseQuietly` lets no ordinary fault out.
* `hold` runs work between the two: it releases if and only if it acquired, after the work and
  however the work ended.
* `callLocked` adds an error handler, which is told the phase that failed.
-/

namespace TimedLock.Holding

variable {σ α : Type} [Journal σ]

/-! ## Taking and giving back -/

/-- Asks a lock once for a time that was resolved. -/
def acquireWithin (lock : Handle σ) (time : Value) (unit : TimeUnit) : Run σ Unit := do
  match ← (lock.acquire time unit).attempt with
  | .error fault =>
    .fail (if fault.isOrdinary then Problem.acquireFailed.causedBy fault else fault)
  | .ok obtained =>
    if obtained.isTruthy then pure ()
    else
      let problem := Problem.acquireTimedOut time unit
      .note .warning .holding problem.message
      .refuse problem

/-- Obtains a lock within a timeout. -/
def acquire (lock : Handle σ) (timeout : Value) (unit : Option TimeUnit) : Run σ Unit := do
  let (time, unit) ← .ofExcept (Timeout.resolve timeout unit)
  acquireWithin lock time unit

/-- Gives a lock back. An ordinary fault is written to the journal and goes no further. -/
def releaseHandle (lock : Handle σ) : Run σ Unit := do
  match ← lock.release.attempt with
  | .ok _ => pure ()
  | .error fault =>
    if fault.isOrdinary then
      let shown ← .look lock.describe
      .noteFault .warning .holding s!"Unable to release lock {shown}"
    else .fail fault

/-- Gives a lock back, if there is one. -/
def releaseQuietly : Option (Handle σ) → Run σ Unit
  | none => pure ()
  | some lock => releaseHandle lock

/-- Gives a lock back if this process holds it. -/
def releaseIfHeld : Option (Handle σ) → Run σ Unit
  | none => pure ()
  | some lock => do
    let held ← lock.isHeld
    let shown ← .look lock.describe
    if held.isTruthy then
      .note .debug .holding s!"Releasing lock [{shown}]"
      releaseHandle lock
    else
      .note .debug .holding s!"This process does not own lock [{shown}]. Nothing to do."

/-! ## Work under a lock -/

/-- Runs `work` while a lock is held. Where no lock was given, none is given back. -/
def hold (lock : Option (Handle σ)) (timeout : Value) (unit : Option TimeUnit) (work : Run σ α) :
    Run σ α := do
  acquire (lock.getD .absent) timeout unit
  work.thenAlways (releaseQuietly lock)

/-- What to do with a fault of a locked call, once the phase that failed is known. -/
abbrev Handler (σ α : Type) := Phase → Fault → Run σ α

/-- The phase that a fault of a locked call speaks of. -/
def phaseOf (fault : Fault) : Phase := if fault.isAcquisition then .acquisition else .operation

/-- Runs `work` under a lock. A timeout that is not accepted is refused before anything else; an
ordinary fault after that goes to the handler, if there is one, when the lock has been given
back. -/
def callLocked (lock : Option (Handle σ)) (timeout : Value) (unit : Option TimeUnit)
    (work : Run σ α) (handler : Option (Handler σ α)) : Run σ α := do
  let (time, unit) ← .ofExcept (Timeout.resolve timeout unit)
  let held := hold lock time (some unit) work
  match handler with
  | none => held
  | some handler => held.recover Fault.isOrdinary fun fault => handler (phaseOf fault) fault

/-- Runs `work` under a lock for its effect alone. -/
def useLock (lock : Option (Handle σ)) (timeout : Value) (unit : Option TimeUnit)
    (work : Run σ α) (handler : Option (Handler σ α)) : Run σ Unit := do
  let _ ← callLocked lock timeout unit work handler
  pure ()

/-- Runs `work` under a lock for its result, or for what the handler supplies instead. -/
def withLock (lock : Option (Handle σ)) (timeout : Value) (unit : Option TimeUnit)
    (work : Run σ α) (handler : Option (Handler σ α)) : Run σ α :=
  callLocked lock timeout unit work handler

end TimedLock.Holding
