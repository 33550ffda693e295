import TimedLock.Rehearsal.World

/-!
# Doubles

The parts that the world outside the library plays: locks that follow a script, the service behind
the mutexes, the cache, the clients and those who make them. Every call is shown as an event before
the script answers it.

A sleep ends with whatever was scheduled for the time that it took, so the doubles that sleep are
given a way to run steps.
-/

namespace TimedLock.Rehearsal

/-! ## Locks -/

/-- A lock that does what its script says, and otherwise always obtains and always holds. -/
def fakeHandle (number : Nat) (name : String) : Handle World where
  acquire time unit := do
    emit (.lockAcquire name time unit)
    (← nextOutcome (lockScripts number) "acquire").answer (pure (.bool true))
  release := do
    emit (.lockRelease name)
    (← nextOutcome (lockScripts number) "release").answer (pure .null)
  isHeld := do
    emit (.lockHeld name)
    (← nextOutcome (lockScripts number) "held").answer (pure (.bool true))
  describe _ := s!"<FakeLock {name}>"

/-- The building block of a mutex. It grants whatever its script does not refuse, and takes back
unless its script ends with a fault. -/
def recipe (number : Nat) : Lock.Recipe World where
  acquire wait := do
    let name := (← (recipeSlot number).get).name
    emit (.recipeAcquire name wait)
    let answer ← (← nextOutcome (lockScripts number) "acquire").answer (pure (.bool true))
    if answer.isTruthy then
      let now ← (recipeSlot number).get
      (recipeSlot number).set { now with granted := .bool true }
    pure answer
  release := do
    let name := (← (recipeSlot number).get).name
    emit (.recipeRelease name)
    let answer ← (← nextOutcome (lockScripts number) "release").answer (pure .null)
    let now ← (recipeSlot number).get
    (recipeSlot number).set { now with granted := .bool false }
    pure answer
  isGranted := do
    let now ← (recipeSlot number).get
    pure now.granted

/-! ## Time -/

/-- How often a step may sleep. -/
def sleepLimit : Nat := 40

/-- How steps are run on a thread. -/
abbrev Runner := Thread → Step → Run World Value

/-- Whether an appointment is not later than another. -/
def Appointment.isBy (a b : Appointment) : Bool :=
  match b.due.before a.due with
  | .ok isLater => !isLater
  | .error _ => true

/-- The appointments that are due, and the others, each in the order of the agenda. A time that is
no number cannot be told from the clock, and is refused. -/
def splitDue (clock : Float) :
    List Appointment → Except Fault (List Appointment × List Appointment)
  | [] => .ok ([], [])
  | a :: rest => do
    let isDue ← a.due.atMost (.float clock)
    let (due, others) ← splitDue clock rest
    .ok (if isDue then (a :: due, others) else (due, a :: others))

/-- Keeps appointments, one after the other. A fault of one ends it, and those after it are not
kept any more. -/
def keepAppointments (runner : Runner) (thread : Thread) : List Appointment → Run World Unit
  | [] => pure ()
  | appointment :: rest => do
    emit (.scheduled appointment.step.label)
    let _ ← runner thread appointment.step
    keepAppointments runner thread rest

/-- Takes what is due off the agenda, all at once, and keeps it, the earliest first. Of two at the
same time the one that was made first comes first. -/
def keepDue (runner : Runner) (thread : Thread) : Run World Unit := do
  let (due, others) ← .ofExcept (splitDue (← .look World.clock) (← .look World.agenda))
  .change fun w => { w with agenda := others }
  keepAppointments runner thread (due.mergeSort Appointment.isBy)

/-- Moves the clock on. -/
def passTime (runner : Runner) (thread : Thread) (seconds : Value) : Run World Unit := do
  let now ← .look World.clock
  let clock ← .ofExcept (seconds.movedOn now)
  .change fun w => { w with clock }
  keepDue runner thread

/-- Sleeps. -/
def sleepFor (runner : Runner) (thread : Thread) (pause : Value) : Run World Unit := do
  emit (.sleep pause)
  .change fun w => { w with sleeps := w.sleeps + 1 }
  if sleepLimit < (← .look World.sleeps) then
    .fail (.simple .sleepLimit (some (.text "more than 40 sleeps in one step")))
  if ← .ofExcept (pause.before (.int 0)) then
    .fail (.simple .badValue (some (.text "sleep length must be non-negative")))
  passTime runner thread pause

/-! ## The cache -/

/-- When something stored now for a time expires. A time of zero is over already, and nothing
stored without a time expires. -/
def expiryAfter (clock : Float) (timeout : Value) : Except Fault (Option Float) :=
  if timeout.isNull then .ok none
  else
    let timeout := if timeout.same (.int 0) then .int (-1) else timeout
    (timeout.addedTo clock).map some

/-- The instant at which whatever has no expiry of its own counts as expired: keys that nothing was
stored under, and entries whose expiry could not be worked out. -/
def untimedExpiry : Float := -1

/-- Whether a key has expired. Nothing has, before the instant at which untimed keys expire. -/
def hasExpired (key : String) : Run World Bool :=
  .look fun w => match w.cache.stored? key with
    | some entry => !entry.isLive w.clock
    | none => decide (untimedExpiry ≤ w.clock)

/-- Stores a value for a time. The value is stored before its expiry is worked out; where that
fails, the key keeps the expiry that it had. -/
def cachePut (key : String) (value timeout : Value) : Run World Unit := do
  let clock ← .look World.clock
  let old ← .look fun w => w.cache.stored? key
  let put (entry : Stored Float CacheEntry) : Run World Unit :=
    .change fun w => { w with cache := w.cache.put key entry }
  match expiryAfter clock timeout with
  | .ok expiry => put ⟨⟨value, true⟩, expiry⟩
  | .error fault =>
    put (match old with
      | some entry => { entry with value := { entry.value with value } }
      | none => ⟨⟨value, false⟩, some untimedExpiry⟩)
    .fail fault

/-- Stores a value for a time if its key has expired, and tells whether it did. -/
def cacheAdd (key : String) (value timeout : Value) : Run World Value := do
  if ← hasExpired key then
    cachePut key value timeout
    pure (.bool true)
  else pure (.bool false)

/-- The key as the cache itself knows it. -/
def fullKey (key : String) : String := ":1:" ++ key

/-- The value under a key. A key that has expired is removed on this occasion. -/
def cacheGet (key : String) : Run World Value := do
  if ← hasExpired key then
    .change fun w => { w with cache := w.cache.erase key }
    pure .null
  else
    match ← .look fun w => w.cache.stored? key with
    | some entry => pure entry.value.value
    | none => unknownName (some (fullKey key))

/-- Deletes a key, and tells whether an entry with an expiry of its own was stored under it. -/
def cacheErase (key : String) : Run World Value := do
  let found ← .look fun w => (w.cache.stored? key).any (·.value.isTimed)
  .change fun w => { w with cache := w.cache.erase key }
  pure (.bool found)

/-- Answers a call of the cache. An answer of nothing is no answer. -/
def cacheAnswer (method : String) (default : Run World Value) : Run World Value := do
  match ← nextOutcome cacheScripts method with
  | .returns .null => default
  | outcome => outcome.answer default

/-- The surroundings of a cache mutex that is used on a thread. -/
def surroundings (runner : Runner) (thread : Thread) : Lock.Surroundings World where
  add key token expire := do
    emit (.cacheAdd key token expire)
    cacheAnswer "add" (cacheAdd key (.text token) expire)
  get key := do
    emit (.cacheGet key)
    cacheAnswer "get" (cacheGet key)
  delete key := do
    emit (.cacheDelete key)
    let _ ← cacheAnswer "delete" (cacheErase key)
    pure ()
  drawToken := do
    .change fun w => { w with tokens := w.tokens + 1 }
    .look fun w => s!"token-{w.tokens}"
  now := .look World.clock
  sleep := sleepFor runner thread
  patience := 1000

/-! ## Clients -/

/-- Sets the three states of a client. -/
def setStates (client : ClientRef) (state : String) (connected : Bool) (keeperState : String) :
    Run World Unit :=
  .change fun w => { w with clients := w.clients.modify client.number fun c =>
    { c with
      state := .text state
      connected := .bool connected
      keeperState := .text keeperState } }

/-- A call of a client: the event, and then the script. -/
def clientCall (client : ClientRef) (method : String) (event : Event)
    (default : Run World Value) : Run World Value := do
  emit event
  (← nextOutcome (clientScripts client) method).answer default

/-- An attribute of a client. -/
def clientAttribute (client : ClientRef) (which : ClientAttribute) : Slot World Value :=
  match which with
  | .state => clientSlot client .null ClientState.state fun v c => { c with state := v }
  | .connected => clientSlot client .null ClientState.connected fun v c => { c with connected := v }
  | .keeperState =>
    clientSlot client .null ClientState.keeperState fun v c => { c with keeperState := v }

/-- The double of a client. It connects and disconnects unless its script ends with a fault. -/
def clientDouble (client : ClientRef) : Client World where
  describe := s!"<client {client.name}>"
  state := (clientAttribute client .state).get
  isConnected := (clientAttribute client .connected).get
  keeperState := (clientAttribute client .keeperState).get
  start timeout := do
    let _ ← clientCall client "start" (.clientStart client.name timeout) (pure .null)
    setStates client Client.connected true Client.connected
  stop := do
    let _ ← clientCall client "stop" (.clientStop client.name) (pure .null)
    setStates client "LOST" false "CLOSED"
  close := do
    let _ ← clientCall client "close" (.clientClose client.name) (pure .null)
    pure ()
  children path :=
    clientCall client "get_children" (.clientChildren client.name path)
      (pure (.list [.text "zookeeper"]))
  listen := do
    let _ ← clientCall client "add_listener" (.clientListen client.name) (pure .null)
    pure ()

/-- The client that is made where nothing else is asked for. -/
def ClientDesign.plain : ClientDesign := ⟨.text "LOST", .bool false, .text "CLOSED", []⟩

/-- Brings a client about. -/
def makeClient (name : String) (design : ClientDesign) : Run World ClientRef := do
  let number ← .look fun w => w.clients.nextNumber
  let state : ClientState :=
    ⟨design.state, design.connected, design.keeperState, design.scripts, []⟩
  .change fun w => { w with clients := w.clients.addNamed name state }
  pure ⟨number, name⟩

/-- Makes retries and clients for the library. -/
def maker : Client.Maker World ClientRef where
  makeRetry policy := do
    .change fun w => { w with retriesAsked := w.retriesAsked + 1 }
    let asked ← .look World.retriesAsked
    let name := s!"retry-{asked}"
    emit (.retryMade name policy)
    pure name
  makeClient options := do
    .change fun w => { w with clientsAsked := w.clientsAsked + 1 }
    emit (.clientMade options)
    let asked ← .look World.clientsAsked
    let queue ← .look World.queue
    .change fun w => { w with queue := w.queue.drop 1 }
    match queue with
    | .refused fault :: _ => .fail fault
    | .made design :: _ => makeClient s!"k{asked}" design
    | [] => makeClient s!"k{asked}" .plain
  client := clientDouble

/-- A managed client of the rehearsal. -/
def managedOf (managed : ManagedRef) : Managed World where
  client := clientDouble managed.client
  connectionTimeout := managed.connectionTimeout
  stage := stageSlot managed.number

/-- Keeps a latent managed client. -/
def adopt (client : ClientRef) (connectionTimeout : Value) : Run World ManagedRef := do
  let number ← .look fun w => w.stages.nextNumber
  .change fun w => { w with stages := w.stages.add .latent }
  pure ⟨number, client, connectionTimeout⟩

/-- A bundle of the rehearsal. -/
def bundleOf (name : String) : Bundle World ClientRef ManagedRef where
  maker := maker
  adopt := adopt
  managed := managedOf
  state := bundleSlot name

end TimedLock.Rehearsal
