import TimedLock.Settings
import TimedLock.Value.Arithmetic

/-!
# Client configurations

How one client of the coordination service connects and retries. The retries back off: each waits
twice as long as the one before, from a base up to a limit, for a number of tries.

A configuration is checked whenever one is made, so every one that exists keeps its limits. The
limits compare as numbers do, and a value that is unordered passes none of the refusals.
-/

namespace TimedLock

/-- How a client connects and retries. -/
structure Config where
  connectString : Value
  sessionTimeout : Value
  connectionTimeout : Value
  retryBaseSleep : Value
  retryMaxSleep : Value
  retryMaxTries : Value
  healthCheckName : Value

namespace Config

/-- What a field is where it is not given. -/
def defaults : Config where
  connectString := .text Settings.defaultConnectString
  sessionTimeout := Settings.unset.sessionTimeoutInForce
  connectionTimeout := Settings.unset.connectionTimeoutInForce
  retryBaseSleep := Settings.unset.retryBaseSleepInForce
  retryMaxSleep := Settings.unset.retryMaxSleepInForce
  retryMaxTries := Settings.unset.retryMaxTriesInForce
  healthCheckName := Settings.unset.healthCheckNameInForce

/-- The fields in order, with their published names. -/
def fields (c : Config) : List (String × Value) :=
  [("connect_string", c.connectString), ("session_timeout", c.sessionTimeout),
   ("connection_timeout", c.connectionTimeout), ("retry_base_sleep", c.retryBaseSleep),
   ("retry_max_sleep", c.retryMaxSleep), ("retry_max_tries", c.retryMaxTries),
   ("health_check_name", c.healthCheckName)]

/-- Gives a field by its published name. -/
def setField (c : Config) (name : String) (v : Value) : Except Fault Config :=
  if name = "connect_string" then .ok { c with connectString := v }
  else if name = "session_timeout" then .ok { c with sessionTimeout := v }
  else if name = "connection_timeout" then .ok { c with connectionTimeout := v }
  else if name = "retry_base_sleep" then .ok { c with retryBaseSleep := v }
  else if name = "retry_max_sleep" then .ok { c with retryMaxSleep := v }
  else if name = "retry_max_tries" then .ok { c with retryMaxTries := v }
  else if name = "health_check_name" then .ok { c with healthCheckName := v }
  else .error (Problem.unknownConfigField name).fault

/-! ## Limits -/

/-- Refuses with `p` where `refused` holds. -/
def refuseIf (refused : Except Fault Bool) (p : Problem) : Except Fault Unit := do
  if ← refused then .error p.fault else .ok ()

/-- Whether a value is no more than blank text. -/
def isBlank (v : Value) : Bool := !v.isTruthy || Text.trimText v.display = ""

def leastRetryBaseSleep : Value := .float 0.001
def leastRetryMaxSleep : Value := .float 0.01
def leastRetryMaxTries : Value := .int 1

/-- Refuses a configuration that is outside its limits; the first field that is decides. -/
def check (c : Config) : Except Fault Unit := do
  refuseIf (.ok (isBlank c.connectString)) .blankConnectString
  refuseIf (c.sessionTimeout.atMost (.int 0)) .timeoutsNotPositive
  refuseIf (c.connectionTimeout.atMost (.int 0)) .timeoutsNotPositive
  refuseIf (c.retryBaseSleep.before leastRetryBaseSleep) .retryBaseSleepTooShort
  refuseIf (c.retryMaxSleep.before leastRetryMaxSleep) .retryMaxSleepTooShort
  refuseIf (c.retryMaxTries.before leastRetryMaxTries) .tooFewTries
  refuseIf (.ok !c.healthCheckName.isTruthy) .blankHealthCheckName

/-- A configuration, if it is within its limits. -/
def checked (c : Config) : Except Fault Config := do
  c.check
  .ok c

/-! ## Ways to make one -/

/-- The configuration with some fields given. -/
def ofFields (given : List (String × Value)) : Except Fault Config := do
  let c ← given.foldlM (fun c e => c.setField e.1 e.2) defaults
  c.checked

/-- The configuration that the settings ask for. -/
def ofSettings (s : Settings) : Except Fault Config :=
  checked
    { connectString := .text s.connectStringInForce
      sessionTimeout := s.sessionTimeoutInForce
      connectionTimeout := s.connectionTimeoutInForce
      retryBaseSleep := s.retryBaseSleepInForce
      retryMaxSleep := s.retryMaxSleepInForce
      retryMaxTries := s.retryMaxTriesInForce
      healthCheckName := s.healthCheckNameInForce }

/-- A copy of a configuration. -/
def copyOf (source : Option Config) : Except Fault Config :=
  match source with
  | none => .error Problem.configMissing.fault
  | some c => c.checked

/-- Refuses a connect string that is blank, or that is nothing to trim. -/
def checkOverride (connectString : Value) : Except Fault Unit :=
  if !connectString.isTruthy then .error Problem.overrideBlank.fault
  else match connectString with
    | .text s => refuseIf (.ok (Text.trimText s = "")) .overrideBlank
    | .bytes data =>
      let isBlankByte (b : UInt8) : Bool := Text.isAsciiBlank (Char.ofNat b.toNat)
      refuseIf (.ok (data.all isBlankByte)) .overrideBlank
    | v => .error (Problem.noSuchMember v.kindName "strip").fault

/-- A copy of a configuration with another connect string. -/
def withConnectString (source : Option Config) (connectString : Value) :
    Except Fault Config := do
  checkOverride connectString
  let c ← copyOf source
  checked { c with connectString := connectString }

/-! ## What it looks like -/

/-- The configuration as it is shown in messages. -/
def describe (c : Config) : String :=
  let parts := c.fields.map fun (name, v) => name ++ "=" ++ v.literal
  "ZooKeeperConfig(" ++ ", ".intercalate parts ++ ")"

/-- Whether two configurations have the same fields. -/
def same (a b : Config) : Bool :=
  (a.fields.zip b.fields).all fun (x, y) => x.2.same y.2

end Config

end TimedLock
