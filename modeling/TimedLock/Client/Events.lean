import TimedLock.Client.Basic

/-!
# Events of a client

Changes of connection and changes of watched nodes, written to the journal under a label.
-/

namespace TimedLock

/-- What a watch reports. A part that the event does not have is missing. -/
structure WatchedEvent where
  type : Option Value
  state : Option Value
  path : Option Value

namespace WatchedEvent

/-- An event with nothing in it. -/
def blank : WatchedEvent := ⟨none, none, none⟩

/-- The event as it is shown in messages. -/
def describe (event : WatchedEvent) : String :=
  let type := (Value.ofOption event.type).display
  let state := (Value.ofOption event.state).display
  let path := (Value.ofOption event.path).display
  s!"WatchedEvent(type={type}, state={state}, path={path})"

end WatchedEvent

namespace Client

variable {σ : Type} [Journal σ]

/-- Writes a change of connection to the journal. -/
def noteState (label state : Value) : Run σ Unit :=
  let isConnected := (Value.bool (state.isText connected)).display
  .note .info .listeners
    (s!"{label.display} received new connection state: {state.display} "
      ++ s!"(connected? {isConnected})")

/-- Writes what a watch reports to the journal. -/
def noteEvent (label : Value) (event : WatchedEvent) : Run σ Unit :=
  .note .info .listeners s!"{label.display} received ZooKeeper event: {event.describe}"

end Client

end TimedLock
