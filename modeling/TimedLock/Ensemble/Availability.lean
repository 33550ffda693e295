import TimedLock.Config
import TimedLock.Ensemble.ConnectString
import TimedLock.Journal

/-!
# Availability of an ensemble

Whether any server of an ensemble accepts a connection. The servers are probed in order, and the
first that accepts ends the search.
-/

namespace TimedLock.Ensemble

variable {σ : Type} [Journal σ]

/-- Opens a connection to a server, waiting for some seconds, and closes it again. -/
abbrev Probe (σ : Type) := Server → Value → Run σ Unit

/-- Seconds that a probe waits where nothing is said. -/
def defaultProbeTimeout : Value := .float 2.0

/-- Whether a server accepts a connection. A failure to reach it is an answer: no. -/
def accepts (probe : Probe σ) (timeout : Value) (server : Server) : Run σ Bool :=
  let ask : Run σ Bool := do
    probe server timeout
    pure true
  ask.recover Fault.isSystem fun fault => do
    .note .debug .availability s!"Cannot connect to {server.address}: {fault.message}"
    pure false

/-- Whether any of some servers accepts a connection. -/
def anyAccepts (probe : Probe σ) (timeout : Value) : List Server → Run σ Bool
  | [] => pure false
  | server :: rest => do
    if ← accepts probe timeout server then pure true else anyAccepts probe timeout rest

/-- Runs a search. A probe that ends an iteration would end the search along with it, so it is
taken for a failure of the search. -/
def searching {α : Type} (search : Run σ α) : Run σ α :=
  search.recover (fun fault => fault.kind = .endOfIteration) fun fault =>
    .fail (Problem.searchEnded.causedBy fault)

/-- Whether any server that a connect string names accepts a connection. The whole string is read
before anything is probed. -/
def isAvailable (probe : Probe σ) (timeout connectString : Value) : Run σ Bool := do
  let found ← .ofExcept (servers connectString)
  searching (anyAccepts probe timeout found)

/-- Whether any server that a client is configured for accepts a connection. -/
def isAvailableFor (probe : Probe σ) (timeout : Value) (c : Config) : Run σ Bool :=
  isAvailable probe timeout c.connectString

end TimedLock.Ensemble
