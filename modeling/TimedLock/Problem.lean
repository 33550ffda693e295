import TimedLock.Fault
import TimedLock.TimeUnit

/-!
# Problems

Everything that this library itself refuses or gives up on. A problem is a cause; its kind and its
wording are each given by one function.
-/

namespace TimedLock

/-- What this library refuses or gives up on. -/
inductive Problem
  /-- A timeout lies before zero. -/
  | negativeTimeout (time : Value) (unit : TimeUnit)
  /-- A length of time came with a unit. -/
  | unitWithDuration
  | unknownUnit (name : Value)
  | notAUnit (value : Value)
  /-- Two values have no order. -/
  | unordered (symbol left right : String)
  /-- An operation does not take two values. -/
  | unsupported (symbol left right : String)
  | quotientTooLarge
  | integerTooLarge
  /-- A length of time has more days than lengths of time can have. -/
  | durationTooLong (days : Int)
  /-- The days of a length of time are not even a machine integer. -/
  | daysBeyondWord
  /-- Text or a list would be repeated too often. -/
  | repetitionTooLarge
  /-- Something was asked of a value that does not have it. -/
  | noSuchMember (kind member : String)
  | unhashable (kind : String)
  | acquireFailed
  | acquireTimedOut (time : Value) (unit : TimeUnit)
  /-- A thread released a mutex that it does not own. -/
  | foreignRelease (path : Value)
  | leaseNotHeld (path : Value)
  | taskLockNotHeld (name : Value)
  /-- A wait was polled more often than its bound. -/
  | pollLimit
  | blankConnectString
  | timeoutsNotPositive
  | retryBaseSleepTooShort
  | retryMaxSleepTooShort
  | tooFewTries
  | blankHealthCheckName
  | unknownConfigField (name : String)
  | configMissing
  | overrideBlank
  | clientMissing
  | startFailed
  /-- A port is no whole number. -/
  | badPort (text : String)
  /-- A port has too many digits. -/
  | portTooLong (digits : Nat)
  /-- Bytes were given where text is split. -/
  | bytesNotText
  /-- A probe said that an iteration ended, inside a search that is an iteration itself. -/
  | searchEnded
  | unknownSymbol (name : String)
deriving Inhabited

namespace Problem

/-- The kind of fault that a problem is raised as. -/
def kind : Problem → FaultKind
  | .negativeTimeout .. | .notAUnit _ | .configMissing | .overrideBlank | .clientMissing
  | .badPort _ | .portTooLong _ => .badValue
  | .unitWithDuration | .unordered .. | .unsupported .. | .unhashable _ | .unknownConfigField _
  | .bytesNotText => .badType
  | .unknownUnit _ => .badKey
  | .quotientTooLarge | .integerTooLarge | .durationTooLong _ | .daysBeyondWord => .overflow
  | .repetitionTooLarge => .outOfMemory
  | .noSuchMember .. | .unknownSymbol _ => .noAttribute
  | .acquireFailed => .acquisitionFailure
  | .acquireTimedOut .. => .acquisitionTimeout
  | .foreignRelease _ | .leaseNotHeld _ | .taskLockNotHeld _ | .pollLimit | .searchEnded =>
    .runtime
  | .blankConnectString | .timeoutsNotPositive | .retryBaseSleepTooShort | .retryMaxSleepTooShort
  | .tooFewTries | .blankHealthCheckName => .badSettings
  | .startFailed => .startupFailure

/-- A number of characters at the front of a text. -/
private def cut (count : Nat) (s : String) : String := String.ofList (s.toList.take count)

/-- The wording of a problem. -/
def message : Problem → String
  | .negativeTimeout time unit => s!"timeout must not be negative: {time.display} {unit.name}"
  | .unitWithDuration => "unit must not be given with a timedelta timeout"
  | .unknownUnit name => name.display
  | .notAUnit value => s!"{value.literal} is not a valid TimeUnit"
  | .unordered symbol left right =>
    s!"'{symbol}' not supported between instances of '{left}' and '{right}'"
  | .unsupported symbol left right =>
    s!"unsupported operand type(s) for {symbol}: '{left}' and '{right}'"
  | .quotientTooLarge => "integer division result too large for a float"
  | .integerTooLarge => "int too large to convert to float"
  | .durationTooLong days => s!"days={days}; must have magnitude <= 999999999"
  | .daysBeyondWord => "Python int too large to convert to C int"
  | .repetitionTooLarge => ""
  | .noSuchMember kind member => s!"'{kind}' object has no attribute '{member}'"
  | .unhashable kind => s!"unhashable type: '{kind}'"
  | .acquireFailed => "Failed to acquire lock"
  | .acquireTimedOut time unit =>
    s!"Failed to acquire lock; timed out after {time.display} {unit.name}"
  | .foreignRelease path => s!"Current thread does not own lock {path.display}"
  | .leaseNotHeld path => s!"Lock {path.display} is not acquired"
  | .taskLockNotHeld name => s!"Task lock not held lock_name={name.display}"
  | .pollLimit => "the lock was polled too often"
  | .blankConnectString => "ZooKeeper connect string must not be blank"
  | .timeoutsNotPositive => "ZooKeeper session and connection timeouts must be > 0"
  | .retryBaseSleepTooShort => "retry_base_sleep must be >= 0.001s"
  | .retryMaxSleepTooShort => "retry_max_sleep must be >= 0.01s"
  | .tooFewTries => "retry_max_tries must be >= 1"
  | .blankHealthCheckName => "health_check_name must not be blank"
  | .unknownConfigField name =>
    s!"ZooKeeperConfig.__init__() got an unexpected keyword argument '{name}'"
  | .configMissing => "original config must not be None"
  | .overrideBlank => "connect_string must not be blank"
  | .clientMissing => "client must not be None"
  | .startFailed => "Error starting ZooKeeper client"
  | .badPort text =>
    let shown := cut 200 (Text.quoted text)
    s!"invalid literal for int() with base 10: {shown}"
  | .portTooLong digits =>
    s!"Exceeds the limit (4300 digits) for integer string conversion: value has {digits} digits; "
      ++ "use sys.set_int_max_str_digits() to increase the limit"
  | .bytesNotText => "a bytes-like object is required, not 'str'"
  | .searchEnded => "generator raised StopIteration"
  | .unknownSymbol name =>
    let shown := Text.quoted name
    s!"module 'agentcore_lock.adapters.django' has no attribute {shown}"

/-- The value that describes a problem: its wording, or the key that was not found. -/
def detail : Problem → Option Value
  | .unknownUnit name => some name
  | .repetitionTooLarge => none
  | p => some (.text p.message)

/-- A problem raised as a fault. -/
def fault (p : Problem) : Fault := ⟨p.kind, p.detail, none⟩

/-- A problem raised because of another fault. -/
def causedBy (p : Problem) (cause : Fault) : Fault := ⟨p.kind, p.detail, some cause⟩

end Problem

end TimedLock
