import TimedLock.Problem

/-!
# The catalogue

The names that an application may import from the package, and where each of them is found. A
module of the package is found as itself; a symbol is found in the module that defines it.
-/

namespace TimedLock.Catalogue

/-- What a name stands for: its full or its own name, and the module that defines it if it is not
a module itself. -/
structure Location where
  name : String
  definedIn : Option String
deriving DecidableEq, Repr

/-- The package that everything for the application is in. -/
def package : String := "agentcore_lock.adapters.django"

/-- The modules that can be asked for. -/
def modules : List String := ["apps", "conf", "serializers", "services", "urls", "views"]

/-- The name of a service module. -/
def service (name : String) : String := package ++ ".services." ++ name

/-- The symbols in their published order: what each is asked for by, its own name, and the module
that defines it. -/
def symbols : List (String × Location) :=
  let taskLock := service "lock"
  let kinds := "agentcore_lock.exceptions"
  [("LockHelper", ⟨"LockHelper", service "lock_helper"⟩),
   ("lock_helper", ⟨"LockHelper", service "lock_helper"⟩),
   ("ZooKeeperMutex", ⟨"ZooKeeperMutex", service "zk_locks"⟩),
   ("ZooKeeperSemaphoreMutex", ⟨"ZooKeeperSemaphoreMutex", service "zk_locks"⟩),
   ("CacheMutex", ⟨"CacheMutex", taskLock⟩),
   ("is_task_locked", ⟨"is_task_locked", taskLock⟩),
   ("prevent_duplicate_task", ⟨"prevent_duplicate_task", taskLock⟩),
   ("ErrorType", ⟨"ErrorType", "agentcore_lock.constants"⟩),
   ("TimeUnit", ⟨"TimeUnit", "agentcore_lock.constants"⟩),
   ("LockAcquisitionException", ⟨"LockAcquisitionException", kinds⟩),
   ("LockAcquisitionFailureException", ⟨"LockAcquisitionFailureException", kinds⟩),
   ("LockAcquisitionTimeoutException", ⟨"LockAcquisitionTimeoutException", kinds⟩),
   ("ZooKeeperConfig", ⟨"ZooKeeperConfig", package ++ ".conf"⟩),
   ("get_bundle", ⟨"get_bundle", service "bundle"⟩)]

/-- The symbols that are published. -/
def exports : List String := symbols.map (·.1)

/-- Where a name is found. -/
def find (name : String) : Except Fault Location :=
  if modules.contains name then .ok ⟨package ++ "." ++ name, none⟩
  else match symbols.find? (·.1 = name) with
    | some (_, location) => .ok location
    | none => .error (Problem.unknownSymbol name).fault

end TimedLock.Catalogue
