import TimedLock.App.Endpoint
import TimedLock.Client.Events
import TimedLock.Rehearsal.Script
import TimedLock.Task.Guard

/-!
# The acts of a rehearsal

What can be done in a rehearsal: every operation of the library, and what others do meanwhile. Work
under a lock, handlers and tasks are programs, which are made of steps again.
-/

namespace TimedLock.Rehearsal

/-! ## Acts without programs -/

/-- The locks that a rehearsal can make. -/
inductive LockDesign
  /-- A lock that only does what its script says. -/
  | fake (scripts : Scripts)
  | reentrant (path identifier : Value) (scripts : Scripts) (refusal : Option Fault)
  | lease (path identifier : Value) (scripts : Scripts) (refusal : Option Fault)
  | cached (name expire : Value) (pollInterval : Option Value)

/-- Direct use of a lock. -/
inductive LockAct
  | make (name : String) (design : LockDesign)
  | acquire (lock : String) (time : Value) (unit : Option String)
  | release (lock : String)
  | isHeld (lock : String)
  | describe (lock : String)
  /-- Says what the service says of a single-lease mutex. -/
  | setGranted (lock : String) (granted : Value)
  | acquireQuietly (lock : Option String) (timeout : Value) (unit : Option String)
  | releaseQuietly (lock : Option String)
  | releaseIfHeld (lock : Option String)

/-- Whose script is replaced. -/
inductive ScriptOwner
  | lock (name : String)
  | client (name : String)
  | cache

/-- Use of the cache by others, and the passing of time. -/
inductive CacheAct
  | isLocked (name : Value)
  | put (name value timeout : Value)
  | erase (name : Value)
  | advance (seconds : Value)

/-- How a client double starts out. -/
structure ClientDesign where
  state : Value
  connected : Value
  keeperState : Value
  scripts : Scripts

/-- The clients that the library makes next. -/
inductive QueuedClient
  | made (design : ClientDesign)
  | refused (fault : Fault)

/-- Where a configuration comes from. -/
inductive ConfigSource
  | fields (given : List (String × Value))
  | settings

/-- The configuration of a source. -/
def ConfigSource.resolve (source : ConfigSource) (settings : Settings) : Except Fault Config :=
  match source with
  | .fields given => Config.ofFields given
  | .settings => Config.ofSettings settings

/-- Whether two sources give the same configuration. The settings are the same as themselves, even
where a value of theirs differs from itself. -/
def ConfigSource.same (a b : ConfigSource) (settings : Settings) : Except Fault Bool := do
  let x ← a.resolve settings
  let y ← b.resolve settings
  match a, b with
  | .settings, .settings => .ok true
  | _, _ => .ok (x.same y)

/-- The attributes of a client double. -/
inductive ClientAttribute
  | state
  | connected
  | keeperState

/-- What a health check is made for. -/
inductive HealthSubject
  | managed (name : String)
  /-- A client with a stage that is made up. -/
  | stub (stage : Value) (client : Option String)

/-- Use of clients. -/
inductive ClientAct
  | make (name : String) (design : ClientDesign)
  | setAttribute (client : String) (which : ClientAttribute) (value : Value)
  | queue (next : QueuedClient)
  | create (config : ConfigSource)
  | createStarted (config : ConfigSource)
  | closeIfStarted (client : Option String)
  | closeQuietly (client : Option String)
  | manage (name : String) (client : Option String) (connectionTimeout : Option Value)
  | startManaged (managed : String)
  | stopManaged (managed : String)
  | describeManaged (managed : String)
  | checkHealth (subject : HealthSubject) (connectString : Value)
  | addListener (client : String) (label : Value)
  | tellListeners (client : String) (state : Value)
  | makeWatcher (name : String) (label : Value)
  | tellWatcher (name : String) (event : WatchedEvent)

/-- Use of bundles and of the application around them. -/
inductive AppAct
  | makeBundle (name : String)
  | runBundle (bundle : String) (config : ConfigSource)
  | stopBundle (bundle : String)
  | bundleClient (bundle : String)
  | bundleHealth (bundle : String)
  | start
  | exit
  | request (method address : String) (isAuthenticated : Bool)
  | setSettings (values : List (String × Value)) (environment : List (String × String))
  | taskLockTimeout

/-! ## Programs -/

/-- How a program ends once its steps are done. -/
inductive Ending
  | returns (v : Value)
  | raises (fault : Fault)
  /-- Ends with the fault that the program was given to handle. -/
  | reraises
  /-- Returns the phase that the program was told of. -/
  | returnsPhase

mutual

/-- A step: an act, the thread that it runs on if not the current one, and whether a program goes
on when the step ends with a fault. The label is what the step is called. -/
inductive Step
  | mk (label : String) (thread : Option Thread) (catches : Bool) (act : Act)

/-- An act. -/
inductive Act
  | lock (act : LockAct)
  | script (owner : ScriptOwner) (method : String) (outcomes : List Outcome)
  | cache (act : CacheAct)
  | client (act : ClientAct)
  | app (act : AppAct)
  | hold (lock : Option String) (timeout : Value) (unit : Option String) (body : Program)
  /-- Runs a program under a lock; `keeps` says that its result is wanted. -/
  | call (keeps : Bool) (lock : Option String) (timeout : Value) (unit : Option String)
      (action : Program) (handler : Option Reaction)
  | defineTask (name : String) (guard : Task.Guard) (body : Program) (doc : Option String)
  | callTask (name : String) (args : Task.Arguments)
  | schedule (due : Value) (step : Step)
  /-- Something that cannot even be asked for. -/
  | refused (fault : Fault)

/-- Steps one after the other. -/
inductive Program
  | mk (steps : List Step) (ending : Ending)

/-- What a handler does in each phase. -/
inductive Reaction
  | mk (acquisition operation : Program)

end

def Step.label : Step → String
  | .mk label .. => label

def Step.catches : Step → Bool
  | .mk _ _ catches _ => catches

/-- The program for a phase. -/
def Reaction.forPhase : Reaction → Phase → Program
  | .mk acquisition _, .acquisition => acquisition
  | .mk _ operation, .operation => operation

end TimedLock.Rehearsal
