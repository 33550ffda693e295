import TimedLock.Value.Text

/-!
# Faults

What a computation ends with when it does not return. A fault has a kind, at most one value that
describes it, and maybe the fault that caused it.

Kinds matter in four ways. *Ordinary* faults are the ones that a lock may swallow or wrap; a demand
to stop the whole program is not ordinary and always passes. *Acquisition* faults say that a lock
was not obtained. *Lock* faults are the ones that this library raises as its own. *System* faults
are failures to reach another machine.
-/

namespace TimedLock

/-- The kinds of fault. -/
inductive FaultKind
  | general
  | badValue
  | runtime
  | badKey
  | badIndex
  | noAttribute
  | system
  | connection
  | connectionRefused
  | systemTimeout
  | badType
  | zeroDivision
  | overflow
  | endOfIteration
  | interrupt
  | programExit
  | generatorExit
  | waitExpired
  | connectionLoss
  | unknownHost
  | lock
  | acquisition
  | acquisitionFailure
  | acquisitionTimeout
  | startupFailure
  | badSettings
  | outOfMemory
  | tooDeep
  | sleepLimit
deriving DecidableEq, Repr

namespace FaultKind

/-- The published name of a kind. -/
def name : FaultKind → String
  | .general => "Exception"
  | .badValue => "ValueError"
  | .runtime => "RuntimeError"
  | .badKey => "KeyError"
  | .badIndex => "IndexError"
  | .noAttribute => "AttributeError"
  | .system => "OSError"
  | .connection => "ConnectionError"
  | .connectionRefused => "ConnectionRefusedError"
  | .systemTimeout => "TimeoutError"
  | .badType => "TypeError"
  | .zeroDivision => "ZeroDivisionError"
  | .overflow => "OverflowError"
  | .endOfIteration => "StopIteration"
  | .interrupt => "KeyboardInterrupt"
  | .programExit => "SystemExit"
  | .generatorExit => "GeneratorExit"
  | .waitExpired => "LockTimeout"
  | .connectionLoss => "ConnectionLoss"
  | .unknownHost => "gaierror"
  | .lock => "AgentcoreLockError"
  | .acquisition => "LockAcquisitionException"
  | .acquisitionFailure => "LockAcquisitionFailureException"
  | .acquisitionTimeout => "LockAcquisitionTimeoutException"
  | .startupFailure => "CoordinatorStartupFailureException"
  | .badSettings => "ImproperlyConfigured"
  | .outOfMemory => "MemoryError"
  | .tooDeep => "RecursionError"
  | .sleepLimit => "SleepLimit"

/-- The kinds that can be asked for by name. -/
def all : List FaultKind :=
  [.general, .badValue, .runtime, .badKey, .badIndex, .noAttribute, .system, .connection,
   .connectionRefused, .systemTimeout, .badType, .zeroDivision, .overflow, .endOfIteration,
   .interrupt, .programExit, .generatorExit, .waitExpired, .connectionLoss, .unknownHost, .lock,
   .acquisition, .acquisitionFailure, .acquisitionTimeout, .startupFailure, .badSettings,
   .outOfMemory, .tooDeep, .sleepLimit]

/-- The kind of a name. -/
def ofName? (s : String) : Option FaultKind := all.find? (·.name = s)

/-- Ordinary faults may be swallowed or wrapped; demands to stop may not. -/
def isOrdinary : FaultKind → Bool
  | .interrupt | .programExit | .generatorExit => false
  | _ => true

/-- Kinds that say that a lock was not obtained. -/
def isAcquisition : FaultKind → Bool
  | .acquisition | .acquisitionFailure | .acquisitionTimeout => true
  | _ => false

/-- Kinds that this library raises as its own. -/
def isLock : FaultKind → Bool
  | .lock | .startupFailure => true
  | k => k.isAcquisition

/-- Failures to reach another machine. -/
def isSystem : FaultKind → Bool
  | .system | .connection | .connectionRefused | .systemTimeout | .unknownHost => true
  | _ => false

end FaultKind

/-- What a computation ends with when it does not return. -/
structure Fault where
  kind : FaultKind
  /-- The value that describes the fault, if there is one. -/
  detail : Option Value
  cause : Option Fault

namespace Fault

instance : Inhabited Fault := ⟨⟨.general, none, none⟩⟩

/-- A fault without a cause. -/
def simple (kind : FaultKind) (detail : Option Value) : Fault := ⟨kind, detail, none⟩

/-- What a fault says: a missing key is quoted, so that a blank one can be seen. -/
def message (f : Fault) : String :=
  match f.detail with
  | none => ""
  | some v => if f.kind = .badKey then v.literal else v.display

/-- A fault with its kind and description. -/
def literal (f : Fault) : String :=
  f.kind.name ++ "(" ++ (f.detail.map Value.literal).getD "" ++ ")"

/-- Kind and message in one line. -/
def summary (f : Fault) : String := f.kind.name ++ ": " ++ f.message

/-- One of this library's faults. Without a description it is described by its cause. -/
def described (kind : FaultKind) (detail : Option Value) (cause : Option Fault) : Fault :=
  ⟨kind, detail.or (cause.map fun f => .text f.summary), cause⟩

def isOrdinary (f : Fault) : Bool := f.kind.isOrdinary

def isAcquisition (f : Fault) : Bool := f.kind.isAcquisition

def isSystem (f : Fault) : Bool := f.kind.isSystem

end Fault

/-- An acquisition fault is ordinary, so a handler gets to see it. -/
theorem FaultKind.isOrdinary_of_isAcquisition {k : FaultKind} (h : k.isAcquisition = true) :
    k.isOrdinary = true := by
  cases k <;> simp_all [isAcquisition, isOrdinary]

end TimedLock
