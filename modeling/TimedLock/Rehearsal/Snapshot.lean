import TimedLock.Rehearsal.Performance

/-!
# Snapshots and answers

What can be seen of the world between two steps, and the answers of a whole rehearsal.
-/

namespace TimedLock.Rehearsal

/-- What can be seen of a lock. -/
inductive LockView
  | reentrant (holds : Nat) (owner : Option Thread)
  | lease (granted : Value)
  | cached (token : Option String)

/-- What can be seen of a bundle. -/
structure BundleView where
  managed : Option Stage
  connectString : Value
  hasHealthCheck : Bool

/-- What can be seen of the world. -/
structure Snapshot where
  clock : Float
  /-- The live entries of the cache, by key. -/
  cache : List (String × Stored Float CacheEntry)
  /-- The locks that are not fakes, if there are any. -/
  locks : List (String × LockView)
  managed : List (String × Stage)
  /-- The bundles that were run. -/
  bundles : List (String × BundleView)

/-- What can be seen of a lock; fakes keep nothing. -/
def LockState.view? : LockState → Option LockView
  | .fake .. => none
  | .reentrant _ _ ownership => some (.reentrant ownership.holds ownership.owner)
  | .lease _ recipe => some (.lease recipe.granted)
  | .cached _ _ _ token => some (.cached token)

namespace World

/-- What can be seen of a bundle that was run. -/
def bundleView? (w : World) (bundle : BundleState ManagedRef) : Option BundleView :=
  bundle.config.map fun config =>
    { managed := bundle.managed.map fun managed => (stageSlot managed.number).read w
      connectString := config.connectString
      hasHealthCheck := bundle.health.isSome }

/-- What can be seen. -/
def snapshot (w : World) : Snapshot where
  clock := w.clock
  cache := (w.cache.liveEntries w.clock).mergeSort fun a b => a.1 ≤ b.1
  locks := w.locks.named.filterMap fun (name, lock) => lock.view?.map (name, ·)
  managed := w.managed.map fun (name, managed) => (name, (stageSlot managed.number).read w)
  bundles := w.bundles.filterMap fun (name, bundle) => (w.bundleView? bundle).map (name, ·)

end World

/-- The answer to a step: how it ended, what happened, and what can be seen then. -/
structure Answer where
  outcome : Except Fault Value
  events : List Event
  snapshot : Snapshot

/-- The thread that a rehearsal begins on. -/
def mainThread : Thread := "main"

/-- Performs one step of a rehearsal. -/
def answer (w : World) (step : Step) : Answer × World :=
  let (outcome, w) := perform depthLimit mainThread step { w with events := [], sleeps := 0 }
  (⟨outcome, w.events.reverse, w.snapshot⟩, w)

/-- Performs the steps of a rehearsal one after the other. -/
def answers (w : World) : List Step → List Answer
  | [] => []
  | step :: rest =>
    let (first, w) := answer w step
    first :: answers w rest

/-- Performs a rehearsal from the start. -/
def rehearse (settings : Settings) (clock : Float) (steps : List Step) : List Answer :=
  answers (World.start settings clock) steps

/-! ## Probing an ensemble -/

/-- A world that shows the probes and the journal of an availability check. -/
structure ProbeWorld where
  /-- The probes, the latest first. -/
  probes : List (Ensemble.Server × Value)
  /-- The journal, the latest entry first. -/
  journal : List Entry

instance : Journal ProbeWorld := ⟨fun entry w => { w with journal := entry :: w.journal }⟩

/-- Probes the addresses that are given an outcome; all others refuse the connection. -/
def probe (addresses : List (String × Except Fault Unit)) : Ensemble.Probe ProbeWorld :=
  fun server timeout => do
    .change fun w => { w with probes := (server, timeout) :: w.probes }
    match findNamed addresses server.address with
    | some outcome => .ofExcept outcome
    | none => .fail (.simple .connectionRefused none)

/-- Performs an availability check, and shows what was probed and written. -/
def performCheck (check : Run ProbeWorld Bool) : Except Fault Bool × ProbeWorld :=
  let (outcome, w) := check ⟨[], []⟩
  (outcome, ⟨w.probes.reverse, w.journal.reverse⟩)

/-- Checks the availability of an ensemble, if its connect string could be had. -/
def checkAvailability (connectString : Except Fault Value) (timeout : Option Value)
    (addresses : List (String × Except Fault Unit)) : Except Fault Bool × ProbeWorld :=
  performCheck do
    let connectString ← .ofExcept connectString
    Ensemble.isAvailable (probe addresses) (timeout.getD Ensemble.defaultProbeTimeout) connectString

/-- Checks the availability of the ensemble that a client is configured for, if there is a
configuration. -/
def checkConfigured (config : Except Fault Config) (timeout : Option Value)
    (addresses : List (String × Except Fault Unit)) : Except Fault Bool × ProbeWorld :=
  performCheck do
    let config ← .ofExcept config
    Ensemble.isAvailableFor (probe addresses) (timeout.getD Ensemble.defaultProbeTimeout) config

end TimedLock.Rehearsal
