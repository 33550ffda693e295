import TimedLock.Config
import TimedLock.Journal

/-!
# Clients of the coordination service

What this library asks of a client, and how a client is made and closed from a configuration.
-/

namespace TimedLock

/-- A client of the coordination service, in a world `σ`. -/
structure Client (σ : Type) where
  /-- The client as it is shown in messages. -/
  describe : String
  /-- The state of the session. -/
  state : Run σ Value
  isConnected : Run σ Value
  /-- The state of the connection to the ensemble. -/
  keeperState : Run σ Value
  /-- Connects, waiting for some seconds. -/
  start : Value → Run σ Unit
  stop : Run σ Unit
  close : Run σ Unit
  /-- The names of the nodes below a path. -/
  children : String → Run σ Value
  /-- Has the client tell a listener of every change of its state. -/
  listen : Run σ Unit

namespace Client

/-- The client where none was given: it has no state. -/
def absent {σ : Type} : Client σ where
  describe := Value.null.display
  state := .refuse (.noSuchMember Value.null.kindName "state")
  isConnected := .refuse (.noSuchMember Value.null.kindName "connected")
  keeperState := .refuse (.noSuchMember Value.null.kindName "client_state")
  start _ := .refuse (.noSuchMember Value.null.kindName "start")
  stop := .refuse (.noSuchMember Value.null.kindName "stop")
  close := .refuse (.noSuchMember Value.null.kindName "close")
  children _ := .refuse (.noSuchMember Value.null.kindName "get_children")
  listen := .refuse (.noSuchMember Value.null.kindName "add_listener")

/-! ## States -/

/-- The state of a session with a connection. -/
def connected : String := "CONNECTED"

/-- The state of a session that lost its connection for the time being. -/
def suspended : String := "SUSPENDED"

/-- The state of a connection that cannot write. -/
def readOnly : String := "CONNECTED_RO"

/-- Whether a session state says that there is something to close. -/
def isOpenState (state : Value) : Bool := state.isText connected || state.isText suspended

/-! ## Closing -/

variable {σ : Type} [Journal σ]

/-- Stops and closes a client that is connected or suspended. -/
def closeIfStarted (client : Client σ) : Run σ Unit := do
  let state ← client.state
  if isOpenState state then
    .note .debug .clients s!"Closing ZooKeeper client [{client.describe}]"
    client.stop
    client.close
  else
    .note .debug .clients
      (s!"ZooKeeper client [{client.describe}] is not started, so cannot stop "
        ++ s!"(state is [{state.display}])")

/-- The same where there may be no client. -/
def closeQuietly : Option (Client σ) → Run σ Unit
  | none => pure ()
  | some client => client.closeIfStarted

/-! ## Making -/

/-- How a client retries: the waits grow from `delay` by the factor `backoff` up to `maxDelay`. -/
structure RetryPolicy where
  maxTries : Value
  delay : Value
  backoff : Nat
  maxDelay : Value

/-- The retry policy of a configuration: every wait is twice the one before. -/
def RetryPolicy.ofConfig (c : Config) : RetryPolicy where
  maxTries := c.retryMaxTries
  delay := c.retryBaseSleep
  backoff := 2
  maxDelay := c.retryMaxSleep

/-- What a client is made with. The two retries are known by name. -/
structure Options where
  hosts : Value
  timeout : Value
  connectionRetry : String
  commandRetry : String

/-- Who makes clients; `κ` is what a client is known by. -/
structure Maker (σ κ : Type) where
  makeRetry : RetryPolicy → Run σ String
  makeClient : Options → Run σ κ
  /-- The client that is known so. -/
  client : κ → Client σ

/-- Makes a client, which is not started. The two retries are made alike, one for connecting and
one for everything else. -/
def create {κ : Type} (maker : Maker σ κ) (config : Config) : Run σ κ := do
  .note .debug .clients
    ("Create ZooKeeper client with bounded exponential backoff using configuration: "
      ++ config.describe)
  let connectionRetry ← maker.makeRetry (.ofConfig config)
  let commandRetry ← maker.makeRetry (.ofConfig config)
  maker.makeClient ⟨config.connectString, config.sessionTimeout, connectionRetry, commandRetry⟩

/-- Makes a client and starts it. -/
def createStarted {κ : Type} (maker : Maker σ κ) (config : Config) : Run σ κ := do
  let made ← create maker config
  (maker.client made).start config.connectionTimeout
  pure made

end Client

end TimedLock
