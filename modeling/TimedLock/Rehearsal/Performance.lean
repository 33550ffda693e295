import TimedLock.App.StartUp
import TimedLock.Ensemble.Availability
import TimedLock.Lock.Lease
import TimedLock.Rehearsal.Address
import TimedLock.Rehearsal.Doubles

/-!
# Performing a rehearsal

How each act is done. Acts that run programs are given a way to run steps; `perform` ties the knot,
and goes down one level for each step inside a step.
-/

namespace TimedLock.Rehearsal

/-! ## Programs -/

/-- Runs steps in order. A step that ends with a fault ends them all, unless it catches. -/
def runSteps (runner : Runner) (thread : Thread) : List Step → Run World Unit
  | [] => pure ()
  | step :: rest => do
    let outcome ← (runner thread step).attempt
    emit (.stepEnded outcome)
    match outcome with
    | .ok _ => runSteps runner thread rest
    | .error fault => if step.catches then runSteps runner thread rest else .fail fault

/-- Ends as told. What there is to handle is given to handlers only. -/
def Ending.run (ending : Ending) (toHandle : Option (Phase × Fault)) : Run World Value :=
  match ending, toHandle with
  | .returns v, _ => pure v
  | .raises fault, _ => .fail fault
  | .reraises, some (_, fault) => .fail fault
  | .returnsPhase, some (phase, _) => pure (.phase phase)
  | _, none => pure .null

/-- Runs a program. -/
def runProgram (runner : Runner) (thread : Thread) (program : Program)
    (toHandle : Option (Phase × Fault)) : Run World Value :=
  match program with
  | .mk steps ending => do
    runSteps runner thread steps
    ending.run toHandle

/-- A handler that shows what it is told and then runs a program. -/
def handlerOf (runner : Runner) (thread : Thread) (reaction : Reaction) :
    Holding.Handler World Value := fun phase fault => do
  emit (.handlerBegan phase fault)
  runProgram runner thread (reaction.forPhase phase) (some (phase, fault))

/-! ## Locks -/

/-- The lock with a number, as a thread sees it. -/
def handleOf (runner : Runner) (thread : Thread) (number : Nat) (state : LockState) :
    Handle World :=
  match state with
  | .fake name _ => fakeHandle number name
  | .reentrant path _ _ =>
    (⟨path, recipe number, ownershipSlot number⟩ : Lock.Reentrant World).handle thread
  | .lease path _ => (⟨path, recipe number⟩ : Lock.Lease World).handle
  | .cached name expire pollInterval _ =>
    (⟨name, expire, pollInterval, tokenSlot number⟩ : Lock.Cached World).handle
      (surroundings runner thread)

/-- The number of a lock. -/
def lockNumber (name : String) : Run World Nat := require name fun w => w.locks.number? name

/-- The lock of a name. -/
def findLock (runner : Runner) (thread : Thread) (name : String) : Run World (Handle World) := do
  let number ← lockNumber name
  let state ← require name fun w => w.locks.get? number
  pure (handleOf runner thread number state)

/-- The lock of a name, if one is given. -/
def findLock? (runner : Runner) (thread : Thread) :
    Option String → Run World (Option (Handle World))
  | none => pure none
  | some name => some <$> findLock runner thread name

/-- The unit of a name, if one is given. -/
def findUnit? : Option String → Run World (Option TimeUnit)
  | none => pure none
  | some name => some <$> Run.ofExcept (TimeUnit.named name)

/-- The unit of a name, which must be given. -/
def findUnit : Option String → Run World TimeUnit
  | none => .refuse (.unknownUnit .null)
  | some name => .ofExcept (TimeUnit.named name)

/-- Has the service make a building block, or refuse to. -/
def makeRecipe (isLease : Bool) (path identifier : Value) (refusal : Option Fault) :
    Run World Unit := do
  emit (.recipeMade isLease path identifier)
  match refusal with
  | none => pure ()
  | some fault => .fail fault

/-- Brings a lock about. -/
def makeLock (name : String) : LockDesign → Run World LockState
  | .fake scripts => pure (.fake name scripts)
  | .reentrant path identifier scripts refusal => do
    makeRecipe false path identifier refusal
    pure (.reentrant path ⟨name, scripts, .bool false⟩ .free)
  | .lease path identifier scripts refusal => do
    makeRecipe true path identifier refusal
    pure (.lease path ⟨name, scripts, .bool false⟩)
  | .cached lockName expire pollInterval => do
    let settings ← .look World.settings
    pure (.cached lockName (expire.orElse settings.taskLockTimeoutInForce)
      (pollInterval.getD Lock.defaultPollInterval) none)

/-- Does what is asked of a lock directly. -/
def LockAct.run (runner : Runner) (thread : Thread) : LockAct → Run World Value
  | .make name design => do
    let state ← makeLock name design
    .change fun w => { w with locks := w.locks.addNamed name state }
    let lock ← findLock runner thread name
    .text <$> Run.look lock.describe
  | .acquire name time unit => do
    let lock ← findLock runner thread name
    let unit ← findUnit unit
    lock.acquire time unit
  | .release name => do
    let lock ← findLock runner thread name
    lock.release
  | .isHeld name => do
    let lock ← findLock runner thread name
    lock.isHeld
  | .describe name => do
    let lock ← findLock runner thread name
    .text <$> Run.look lock.describe
  | .setGranted name granted => do
    let number ← lockNumber name
    let now ← (recipeSlot number).get
    (recipeSlot number).set { now with granted }
    pure .null
  | .acquireQuietly name timeout unit => do
    let lock ← findLock? runner thread name
    let unit ← findUnit? unit
    Holding.acquire (lock.getD .absent) timeout unit
    pure .null
  | .releaseQuietly name => do
    let lock ← findLock? runner thread name
    Holding.releaseQuietly lock
    pure .null
  | .releaseIfHeld name => do
    let lock ← findLock? runner thread name
    Holding.releaseIfHeld lock
    pure .null

/-! ## The cache and time -/

/-- Does what others do to the cache, and lets time pass. -/
def CacheAct.run (runner : Runner) (thread : Thread) : CacheAct → Run World Value
  | .isLocked name => .bool <$> Lock.isNameLocked (surroundings runner thread).toCacheService name
  | .put name value timeout => do
    cachePut (Lock.cacheKey name) value timeout
    pure .null
  | .erase name => cacheErase (Lock.cacheKey name)
  | .advance seconds => do
    passTime runner thread seconds
    pure .null

/-! ## Clients -/

/-- The client of a name. -/
def findClient (name : String) : Run World ClientRef :=
  require name fun w => (w.clients.number? name).map (⟨·, name⟩)

/-- The client of a name, if one is given. -/
def findClient? : Option String → Run World (Option ClientRef)
  | none => pure none
  | some name => some <$> findClient name

/-- The managed client of a name. -/
def findManaged (name : String) : Run World ManagedRef :=
  require name fun w => findNamed w.managed name

/-- A report as a value. -/
def reportValue (report : Report) : Value := .list [.bool report.healthy, .text report.message]

/-- Does what is asked of a client. -/
def ClientAct.run : ClientAct → Run World Value
  | .make name design => do
    let _ ← makeClient name design
    pure .null
  | .setAttribute name which value => do
    let client ← findClient name
    (clientAttribute client which).set value
    pure .null
  | .queue next => do
    .change fun w => { w with queue := w.queue ++ [next] }
    pure .null
  | .create source => do
    let settings ← .look World.settings
    let config ← .ofExcept (source.resolve settings)
    let client ← Client.create maker config
    pure (.text (clientDouble client).describe)
  | .createStarted source => do
    let settings ← .look World.settings
    let config ← .ofExcept (source.resolve settings)
    let client ← Client.createStarted maker config
    pure (.text (clientDouble client).describe)
  | .closeIfStarted name => do
    let client ← findClient? name
    ((client.map clientDouble).getD .absent).closeIfStarted
    pure .null
  | .closeQuietly name => do
    let client ← findClient? name
    Client.closeQuietly (client.map clientDouble)
    pure .null
  | .manage name clientName connectionTimeout => do
    let found ← findClient? clientName
    let client ← .ofExcept (Managed.require found)
    let managed ← adopt client (connectionTimeout.getD Managed.defaultConnectionTimeout)
    .change fun w => { w with managed := putNamed w.managed name managed }
    pure .null
  | .startManaged name => do
    let managed ← findManaged name
    (managedOf managed).start
    pure .null
  | .stopManaged name => do
    let managed ← findManaged name
    (managedOf managed).stop
    pure .null
  | .describeManaged name => do
    let managed ← findManaged name
    .text <$> (managedOf managed).describe
  | .checkHealth (.managed name) connectString => do
    let managed ← findManaged name
    reportValue <$> (managedOf managed).patient.check connectString
  | .checkHealth (.stub stage name) connectString => do
    let client ← findClient? name
    let patient : Patient World := ⟨pure stage, (client.map clientDouble).getD .absent⟩
    reportValue <$> patient.check connectString
  | .addListener name label => do
    let client ← findClient name
    (clientDouble client).listen
    let labels ← (clientListeners client).get
    (clientListeners client).set (labels ++ [label])
    pure (.bool true)
  | .tellListeners name state => do
    let client ← findClient name
    let labels ← (clientListeners client).get
    labels.forM fun label => Client.noteState label state
    pure .null
  | .makeWatcher name label => do
    .change fun w => { w with watchers := putNamed w.watchers name label }
    pure .null
  | .tellWatcher name event => do
    let label ← require name fun w => findNamed w.watchers name
    Client.noteEvent label event
    pure .null

/-! ## Bundles and the application -/

/-- A bundle that must be there. -/
def findBundle (name : String) : Run World (Bundle World ClientRef ManagedRef) := do
  let _ ← require name fun w => findNamed w.bundles name
  pure (bundleOf name)

/-- Stops the bundle of the application once for each time that it was asked for, the latest
request first. -/
def runExits : (count : Nat) → Run World Unit
  | 0 => pure ()
  | count + 1 => do
    .change fun w => { w with exits := count }
    (bundleOf appBundle).stop
    runExits count

/-- Does what is asked of a bundle or of the application. -/
def AppAct.run : AppAct → Run World Value
  | .makeBundle name => do
    (bundleSlot name).set .unused
    pure .null
  | .runBundle name source => do
    let bundle ← findBundle name
    let settings ← .look World.settings
    let config ← .ofExcept (source.resolve settings)
    let managed ← bundle.run config
    .text <$> (managedOf managed).describe
  | .stopBundle name => do
    let bundle ← findBundle name
    bundle.stop
    pure .null
  | .bundleClient name => do
    let bundle ← findBundle name
    let client ← bundle.client
    pure (.ofOption (client.map fun c => .text c.describe))
  | .bundleHealth name => do
    let bundle ← findBundle name
    match (← bundle.state.get).health with
    | none => .refuse (.noSuchMember Value.null.kindName "check")
    | some health => reportValue <$> bundle.checkHealth health
  | .start => do
    let settings ← .look World.settings
    App.start (bundleOf appBundle) settings do
      emit .exitRegistered
      .change fun w => { w with exits := w.exits + 1 }
    pure .null
  | .exit => do
    let count ← .look World.exits
    runExits count
    pure .null
  | .request method address isAuthenticated => do
    let asked ← .ofExcept (requestTo method address isAuthenticated)
    let settings ← .look World.settings
    let response ← App.respond (bundleOf appBundle) settings asked
    pure (.list [.int response.status, .ofOption response.body])
  | .setSettings values environment => do
    .change fun w => { w with settings := w.settings.setAll values environment }
    pure .null
  | .taskLockTimeout => .look fun w => w.settings.taskLockTimeoutInForce

/-! ## Everything -/

/-- Replaces a script. -/
def replaceScript (owner : ScriptOwner) (method : String) (outcomes : List Outcome) :
    Run World Unit := do
  let scripts ← match owner with
    | .lock name => lockScripts <$> lockNumber name
    | .client name => clientScripts <$> findClient name
    | .cache => pure cacheScripts
  let now ← scripts.get
  scripts.set (now.replace method outcomes)

/-- The module that the tasks of a rehearsal are defined in. -/
def taskModule : String := "oracle.tasks"

/-- Does an act on a thread. -/
def Act.run (runner : Runner) (thread : Thread) : Act → Run World Value
  | .lock act => act.run runner thread
  | .script owner method outcomes => do
    replaceScript owner method outcomes
    pure .null
  | .cache act => act.run runner thread
  | .client act => act.run
  | .app act => act.run
  | .hold name timeout unit body => do
    let lock ← findLock? runner thread name
    let unit ← findUnit? unit
    Holding.hold lock timeout unit do
      emit (.bodyBegan true)
      runProgram runner thread body none
  | .call keeps name timeout unit action reaction => do
    let lock ← findLock? runner thread name
    let unit ← findUnit? unit
    let work : Run World Value := do
      emit .actionBegan
      runProgram runner thread action none
    let handler := reaction.map (handlerOf runner thread)
    if keeps then Holding.withLock lock timeout unit work handler
    else do
      Holding.useLock lock timeout unit work handler
      pure .null
  | .defineTask name guard body doc => do
    .change fun w => { w with tasks := putNamed w.tasks name ⟨guard, body⟩ }
    pure (.list [.text name, .text taskModule, .ofOption (doc.map .text)])
  | .callTask name args => do
    let task ← require name fun w => findNamed w.tasks name
    let settings ← .look World.settings
    task.guard.call (surroundings runner thread) settings.taskLockTimeoutInForce args fun args => do
      let named := args.named.mergeSort fun a b => a.1 ≤ b.1
      emit (.taskBegan args.positional named)
      runProgram runner thread task.body none
  | .schedule due step => do
    .change fun w => { w with agenda := w.agenda ++ [⟨due, step⟩] }
    pure .null
  | .refused fault => .fail fault

/-- Performs a step, with at most `depth` steps inside each other. -/
def perform : (depth : Nat) → Runner
  | 0 => fun _ _ => .fail (.simple .tooDeep (some (.text "maximum recursion depth exceeded")))
  | depth + 1 => fun current step =>
    match step with
    | .mk _ thread _ act => act.run (perform depth) (thread.getD current)

/-- How many steps may be inside each other. -/
def depthLimit : Nat := 300

end TimedLock.Rehearsal
