import TimedLock.Holding
import TimedLock.Lock.Cached
import TimedLock.Task.LockName

/-!
# The guard against duplicate runs

A guarded task runs under a cache mutex of its own, made anew for each call and tried for once. The
caller of a task that is running elsewhere gets a payload that says so, and the task is not
started. Whatever the task itself ends with is passed on unchanged: its fault travels through the
locked call as a result, so no fault of the task can be taken for a fault of the lock.
-/

namespace TimedLock.Task

/-- How a task is guarded. -/
structure Guard where
  name : Value
  /-- After how many seconds the lock of a run expires; the settings say so where this does not. -/
  expire : Value
  /-- The parameter whose value is part of the lock name. -/
  param : Value

/-- What the caller of a task gets when it was not run. -/
def skipped (reason explanation : String) : Value :=
  .dict
    [(.text "success", .bool false), (.text "status", .text "skipped"),
     (.text "reason", .text reason), (.text "error", .text explanation)]

namespace Guard

variable {σ : Type} [Journal σ]

/-- The lock name of a call. -/
def lockName (guard : Guard) (args : Arguments) : Run σ Value := do
  if guard.param.isTruthy then
    let value ← .ofExcept (paramValue args guard.param)
    if value.isNull then
      .note .warning .taskLock
        s!"Could not extract lock_param={guard.param.display}, using lock_name={guard.name.display}"
      pure guard.name
    else pure (taskLockName guard.name value)
  else pure guard.name

/-- What the caller gets where the lock of a call was not obtained. -/
def skip (lockName : Value) (fault : Fault) : Run σ Value :=
  if fault.kind = .acquisitionTimeout then
    pure (skipped "task_already_running" s!"Task {lockName.display} is already running")
  else do
    .note .error .taskLock
      s!"Failed to acquire task lock lock_name={lockName.display}: {fault.message}"
    pure (skipped "lock_acquisition_failed" s!"Failed to acquire lock for {lockName.display}")

/-- Runs work under a mutex, in a world whose private part is the token of that mutex. -/
def underMutex (env : Lock.Surroundings σ) (lockName expire : Value) (work : Run σ Value) :
    Run (σ × Option String) Value := do
  let mutex : Lock.Cached (σ × Option String) :=
    ⟨lockName, expire, Lock.defaultPollInterval, .ofPrivate⟩
  let outcome ← Holding.withLock (some (mutex.handle env.shared)) (.int 0) none
    work.inShared.attempt
    (some fun phase fault =>
      match phase with
      | .operation => .fail fault
      | .acquisition => Except.ok <$> skip lockName fault)
  .ofExcept outcome

/-- Calls a guarded task. `fallback` is the expiry that the settings give. -/
def call (guard : Guard) (env : Lock.Surroundings σ) (fallback : Value) (args : Arguments)
    (task : Arguments → Run σ Value) : Run σ Value := do
  let lockName ← guard.lockName args
  (underMutex env lockName (guard.expire.orElse fallback) (task args)).withPrivate none

end Guard

end TimedLock.Task
