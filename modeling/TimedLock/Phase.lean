/-!
# The phases of a locked call

A call that runs work under a lock can fail before the work or in it. Error handlers are told
which.
-/

namespace TimedLock

/-- Which phase of a locked call failed. -/
inductive Phase
  /-- The lock was not obtained, so the work was never started. -/
  | acquisition
  /-- The work failed while the lock was held. -/
  | operation
deriving DecidableEq, Repr

namespace Phase

/-- The published name of a phase. -/
def name : Phase → String
  | .acquisition => "LOCK_ACQUISITION"
  | .operation => "OPERATION"

/-- The phases in order. -/
def all : List Phase := [.acquisition, .operation]

end Phase

end TimedLock
