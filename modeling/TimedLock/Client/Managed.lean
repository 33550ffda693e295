import TimedLock.Client.Basic

/-!
# Managed clients

A client that the application starts once and stops when it shuts down. It is latent until a start
succeeds, started from then on, and stopped once a stop has completed; it never goes back.
-/

namespace TimedLock

/-- How far a managed client has come. -/
inductive Stage
  | latent
  | started
  | stopped
deriving DecidableEq, Repr

/-- The published name of a stage. -/
def Stage.name : Stage → String
  | .latent => "LATENT"
  | .started => "STARTED"
  | .stopped => "STOPPED"

/-- The stages in order. -/
def Stage.all : List Stage := [.latent, .started, .stopped]

/-- A client with the part of the world that holds its stage. -/
structure Managed (σ : Type) where
  client : Client σ
  /-- Seconds that a start waits for the connection. -/
  connectionTimeout : Value
  stage : Slot σ Stage

namespace Managed

/-- There is nothing to manage without a client. -/
def require {κ : Type} : Option κ → Except Fault κ
  | some client => .ok client
  | none => .error Problem.clientMissing.fault

variable {σ : Type} [Journal σ]

/-- Seconds that a start waits where nothing is said. -/
def defaultConnectionTimeout : Value := .float 15.0

/-- Starts the client unless it was started before. -/
def start (managed : Managed σ) : Run σ Unit := do
  let client := managed.client
  if (← managed.stage.get) = .latent then
    let before ← client.state
    .note .info .clients
      s!"Starting ZooKeeper client {client.describe}, currently in state {before.display}"
    client.start managed.connectionTimeout
    managed.stage.set .started
    let after ← client.state
    .note .info .clients s!"ZooKeeper client {client.describe} now in state {after.display}"

/-- Stops and closes the client, whatever its stage. -/
def stop (managed : Managed σ) : Run σ Unit := do
  .note .info .clients s!"Stopping ZooKeeper client {managed.client.describe}"
  managed.client.stop
  managed.client.close
  managed.stage.set .stopped

/-- The managed client as it is shown in messages. -/
def describe (managed : Managed σ) : Run σ String := do
  let stage ← managed.stage.get
  let state ← managed.client.state
  pure (s!"ManagedClient(state={stage.name}, client.state={state.display}, "
    ++ s!"client={managed.client.describe})")

end Managed

end TimedLock
