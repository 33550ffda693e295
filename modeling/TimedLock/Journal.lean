import TimedLock.Run

/-!
# The journal

What this library does that an operator may want to know is written to a journal, which belongs to
the world.
-/

namespace TimedLock

/-- How much an entry matters. -/
inductive Severity
  | debug
  | info
  | warning
  | error
deriving DecidableEq, Repr

/-- The published name of a severity. -/
def Severity.name : Severity → String
  | .debug => "DEBUG"
  | .info => "INFO"
  | .warning => "WARNING"
  | .error => "ERROR"

/-- The part of the library that an entry comes from. -/
inductive Topic
  | holding
  | taskLock
  | mutexes
  | clients
  | bundle
  | health
  | listeners
  | availability
deriving DecidableEq, Repr

/-- The published name of a topic. -/
def Topic.name : Topic → String
  | .holding => "lock_helper"
  | .taskLock => "lock"
  | .mutexes => "zk_locks"
  | .clients => "client"
  | .bundle => "bundle"
  | .health => "health"
  | .listeners => "listeners"
  | .availability => "availability"

/-- An entry of the journal. -/
structure Entry where
  severity : Severity
  topic : Topic
  message : String
  /-- Whether the entry carries the trace of a fault. -/
  traced : Bool
deriving DecidableEq, Repr

/-- Worlds that keep a journal. -/
class Journal (σ : Type) where
  record : Entry → σ → σ

namespace Run

variable {σ : Type} [Journal σ]

/-- Writes an entry to the journal. -/
def note (severity : Severity) (topic : Topic) (message : String) : Run σ Unit :=
  change (Journal.record ⟨severity, topic, message, false⟩)

/-- Writes an entry about a fault to the journal. -/
def noteFault (severity : Severity) (topic : Topic) (message : String) : Run σ Unit :=
  change (Journal.record ⟨severity, topic, message, true⟩)

end Run

/-- A private part does not change where the journal is. -/
instance {σ β : Type} [Journal σ] : Journal (σ × β) where
  record entry s := (Journal.record entry s.1, s.2)

end TimedLock
