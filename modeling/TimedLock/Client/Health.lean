import TimedLock.Client.Managed

/-!
# Health of a client

A client is healthy when it was started, is connected, may write, and can list the nodes at the
root. The conditions are asked in this order, and the first that fails is reported; so the nodes
are listed only if all the others hold.
-/

namespace TimedLock

/-- What a health check looks at. -/
structure Patient (σ : Type) where
  /-- The stage, as its published name. -/
  stage : Run σ Value
  client : Client σ

/-- A managed client as something to check. -/
def Managed.patient {σ : Type} (managed : Managed σ) : Patient σ where
  stage := do
    let stage ← managed.stage.get
    pure (.text stage.name)
  client := managed.client

/-- What a health check finds. -/
structure Report where
  healthy : Bool
  message : String
deriving DecidableEq, Repr

namespace Patient

variable {σ : Type} [Journal σ]

/-- Checks a client that was started. -/
def examine (client : Client σ) (name : String) : Run σ Report := do
  let connected ← client.isConnected
  .note .debug .health s!"ZooKeeper client is connected? {connected.display}"
  if !connected.isTruthy then
    return ⟨false, s!"ZooKeeper [ {name} ] is started but is not connected"⟩
  let keeperState ← client.keeperState
  .note .debug .health s!"ZooKeeper keeper state: {keeperState.display}"
  if keeperState.isText Client.readOnly then
    return ⟨false, s!"ZooKeeper [ {name} ] is connected but is read-only"⟩
  match ← (client.children "/").attempt with
  | .ok nodes =>
    .note .debug .health s!"Found znodes at root: {nodes.display}"
    return ⟨true, s!"ZooKeeper [ {name} ] is healthy"⟩
  | .error fault =>
    if fault.isOrdinary then
      .noteFault .debug .health "Error getting root-level znodes"
      return ⟨false, s!"ZooKeeper [ {name} ] - unable to read znodes at root path '/'"⟩
    else .fail fault

/-- Checks a client that is known by its connect string. -/
def check (patient : Patient σ) (connectString : Value) : Run σ Report := do
  let name := connectString.display
  let stage ← patient.stage
  if stage.isText Stage.latent.name then
    pure ⟨false, s!"ZooKeeper [ {name} ] has not been started - start() has not been called"⟩
  else if stage.isText Stage.stopped.name then
    pure ⟨false, s!"ZooKeeper [ {name} ] is stopped"⟩
  else if stage.isText Stage.started.name then examine patient.client name
  else pure ⟨false, s!"ZooKeeper [ {name} ] has unknown state: {stage.display}"⟩

end Patient

end TimedLock
