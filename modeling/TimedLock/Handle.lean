import TimedLock.Journal
import TimedLock.Timeout

/-!
# Lock handles

All that this library asks of a lock. An acquisition waits up to a time and answers with a value
that counts as true when the lock was obtained. Every operation may end with a fault.
-/

namespace TimedLock

/-- The identifier by which a lock knows the thread that a computation runs on. Two threads that run
at once have different ones; that of a thread that has ended may be given to another one. -/
abbrev Thread := String

/-- A lock in a world `σ`. -/
structure Handle (σ : Type) where
  /-- Tries to obtain the lock within a time. -/
  acquire : Value → TimeUnit → Run σ Value
  /-- Gives the lock back. -/
  release : Run σ Value
  /-- Whether this process holds the lock. -/
  isHeld : Run σ Value
  /-- The lock as it is shown in messages. -/
  describe : σ → String

/-- The handle where no lock was given: it has no operations. -/
def Handle.absent {σ : Type} : Handle σ where
  acquire _ _ := .refuse (.noSuchMember Value.null.kindName "acquire")
  release := .refuse (.noSuchMember Value.null.kindName "release")
  isHeld := .refuse (.noSuchMember Value.null.kindName "is_held_by_current_process")
  describe _ := Value.null.literal

end TimedLock
