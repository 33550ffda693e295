import TimedLock.ExpiringStore
import TimedLock.Lock.Reentrant
import TimedLock.Rehearsal.Act
import TimedLock.Rehearsal.Event
import TimedLock.Rehearsal.Shelf

/-!
# The world of a rehearsal

Everything that a later step can still show: the clock and the cache, the doubles with their
scripts, what the library keeps, and the events of the current step.
-/

namespace TimedLock.Rehearsal

/-! ## What is kept -/

/-- The double of a building block of the service. -/
structure RecipeState where
  name : String
  scripts : Scripts
  granted : Value
deriving Inhabited

/-- A lock of the rehearsal. -/
inductive LockState
  | fake (name : String) (scripts : Scripts)
  | reentrant (path : Value) (recipe : RecipeState) (ownership : Lock.Ownership)
  | lease (path : Value) (recipe : RecipeState)
  | cached (name expire pollInterval : Value) (token : Option String)

/-- A client of the rehearsal, by its number and its name. -/
structure ClientRef where
  number : Nat
  name : String

/-- The double of a client. -/
structure ClientState where
  state : Value
  connected : Value
  keeperState : Value
  scripts : Scripts
  /-- The labels of its listeners. -/
  listeners : List Value

/-- A managed client of the rehearsal, by the number that its stage is kept under. -/
structure ManagedRef where
  number : Nat
  client : ClientRef
  connectionTimeout : Value

/-- A guarded task. -/
structure TaskState where
  guard : Task.Guard
  body : Program

/-- What the cache keeps for a key. -/
structure CacheEntry where
  value : Value
  /-- Whether the entry has an expiry of its own; one whose expiry could not be worked out does
  not. -/
  isTimed : Bool

/-- A step that is to be done once the clock reads `due`. -/
structure Appointment where
  due : Value
  step : Step

/-- The world of a rehearsal. -/
structure World where
  clock : Float
  /-- The events of the current step, the latest first. -/
  events : List Event
  /-- How often the current step has slept. -/
  sleeps : Nat
  /-- How many tokens were drawn. -/
  tokens : Nat
  cache : ExpiringStore Float CacheEntry
  cacheScripts : Scripts
  settings : Settings
  locks : Shelf LockState
  clients : Shelf ClientState
  /-- What the library gets when it next makes a client. -/
  queue : List QueuedClient
  /-- How often the library asked for a client. -/
  clientsAsked : Nat
  /-- How often the library asked for a retry. -/
  retriesAsked : Nat
  /-- The stages of the managed clients. -/
  stages : Shelf Stage
  /-- The managed clients that have a name. -/
  managed : List (String × ManagedRef)
  bundles : List (String × BundleState ManagedRef)
  /-- How often the application's bundle is to be stopped at the end. -/
  exits : Nat
  tasks : List (String × TaskState)
  /-- The labels of the watchers. -/
  watchers : List (String × Value)
  /-- The scheduled steps, in the order in which they were scheduled. -/
  agenda : List Appointment

/-- The bundle of the application. -/
def appBundle : String := "global"

namespace World

/-- The world at the start of a rehearsal. -/
def start (settings : Settings) (clock : Float) : World where
  clock := clock
  events := []
  sleeps := 0
  tokens := 0
  cache := .empty
  cacheScripts := []
  settings := settings
  locks := .empty
  clients := .empty
  queue := []
  clientsAsked := 0
  retriesAsked := 0
  stages := .empty
  managed := []
  bundles := [(appBundle, .unused)]
  exits := 0
  tasks := []
  watchers := []
  agenda := []

end World

instance : Journal World := ⟨fun entry w => { w with events := .entry entry :: w.events }⟩

/-! ## Looking things up -/

/-- Shows an event. -/
def emit (event : Event) : Run World Unit :=
  .change fun w => { w with events := event :: w.events }

/-- Refuses a name that nothing goes by. -/
def unknownName {α : Type} (name : Option String) : Run World α :=
  .fail (.simple .badKey (some (.ofOption (name.map .text))))

/-- What a name stands for. -/
def require {α : Type} (name : String) (find : World → Option α) : Run World α := do
  match ← .look find with
  | some a => pure a
  | none => unknownName (some name)

/-- Replaces the entry of a name, or adds one. -/
def putNamed {α : Type} (entries : List (String × α)) (name : String) (a : α) :
    List (String × α) :=
  if entries.any (·.1 = name) then entries.map fun e => if e.1 = name then (name, a) else e
  else entries ++ [(name, a)]

/-- The entry of a name. -/
def findNamed {α : Type} (entries : List (String × α)) (name : String) : Option α :=
  (entries.find? (·.1 = name)).map (·.2)

/-! ## Parts of the world -/

/-- Who owns the re-entrant mutex with a number. -/
def ownershipSlot (number : Nat) : Slot World Lock.Ownership where
  read w := match w.locks.get? number with
    | some (.reentrant _ _ ownership) => ownership
    | _ => .free
  write ownership w := { w with locks := w.locks.modify number fun
    | .reentrant path recipe _ => .reentrant path recipe ownership
    | other => other }

/-- The token of the cache mutex with a number. -/
def tokenSlot (number : Nat) : Slot World (Option String) where
  read w := match w.locks.get? number with
    | some (.cached _ _ _ token) => token
    | _ => none
  write token w := { w with locks := w.locks.modify number fun
    | .cached name expire pollInterval _ => .cached name expire pollInterval token
    | other => other }

/-- The building block of the mutex with a number. -/
def recipeSlot (number : Nat) : Slot World RecipeState where
  read w := match w.locks.get? number with
    | some (.reentrant _ recipe _) => recipe
    | some (.lease _ recipe) => recipe
    | _ => default
  write recipe w := { w with locks := w.locks.modify number fun
    | .reentrant path _ ownership => .reentrant path recipe ownership
    | .lease path _ => .lease path recipe
    | other => other }

/-- The script of the lock with a number. -/
def lockScripts (number : Nat) : Slot World Scripts where
  read w := match w.locks.get? number with
    | some (.fake _ scripts) => scripts
    | some (.reentrant _ recipe _) => recipe.scripts
    | some (.lease _ recipe) => recipe.scripts
    | _ => []
  write scripts w := { w with locks := w.locks.modify number fun
    | .fake name _ => .fake name scripts
    | .reentrant path recipe ownership => .reentrant path { recipe with scripts } ownership
    | .lease path recipe => .lease path { recipe with scripts }
    | other => other }

/-- A part of a client. -/
def clientSlot {α : Type} (client : ClientRef) (default : α) (read : ClientState → α)
    (write : α → ClientState → ClientState) : Slot World α where
  read w := ((w.clients.get? client.number).map read).getD default
  write a w := { w with clients := w.clients.modify client.number (write a) }

/-- The script of a client. -/
def clientScripts (client : ClientRef) : Slot World Scripts :=
  clientSlot client [] ClientState.scripts fun scripts c => { c with scripts }

/-- The labels of the listeners of a client. -/
def clientListeners (client : ClientRef) : Slot World (List Value) :=
  clientSlot client [] ClientState.listeners fun listeners c => { c with listeners }

/-- The script of the cache. -/
def cacheScripts : Slot World Scripts where
  read := World.cacheScripts
  write scripts w := { w with cacheScripts := scripts }

/-- The stage of the managed client with a number. -/
def stageSlot (number : Nat) : Slot World Stage where
  read w := (w.stages.get? number).getD .latent
  write stage w := { w with stages := w.stages.modify number fun _ => stage }

/-- What a bundle holds. -/
def bundleSlot (name : String) : Slot World (BundleState ManagedRef) where
  read w := (findNamed w.bundles name).getD .unused
  write state w := { w with bundles := putNamed w.bundles name state }

/-- Takes the next answer of a script. -/
def nextOutcome (scripts : Slot World Scripts) (method : String) : Run World Outcome := do
  let now ← scripts.get
  let (outcome, rest) := now.next method
  scripts.set rest
  pure outcome

end TimedLock.Rehearsal
