import TimedLock.Text.Blank
import TimedLock.Value.Text

/-!
# Settings

What the embedding application may set. Every setting has a default. The connect string may also
come from the environment, which is asked after the settings and before the default; blank text
counts as unset in both places.
-/

namespace TimedLock

/-- The settings that an application gives, each of them optional. -/
structure Settings where
  enabled : Option Value
  connectString : Option Value
  sessionTimeout : Option Value
  connectionTimeout : Option Value
  retryBaseSleep : Option Value
  retryMaxSleep : Option Value
  retryMaxTries : Option Value
  healthCheckName : Option Value
  taskLockTimeout : Option Value
  /-- The connect string of the environment. -/
  environment : Option String

namespace Settings

/-- Nothing is set. -/
def unset : Settings := ⟨none, none, none, none, none, none, none, none, none, none⟩

/-- The published names of the settings, each with the change that sets it. -/
def byName : List (String × (Value → Settings → Settings)) :=
  [("ZK_ENABLED", fun v s => { s with enabled := some v }),
   ("ZK_CONNECT_STRING", fun v s => { s with connectString := some v }),
   ("ZK_SESSION_TIMEOUT", fun v s => { s with sessionTimeout := some v }),
   ("ZK_CONNECTION_TIMEOUT", fun v s => { s with connectionTimeout := some v }),
   ("ZK_RETRY_BASE_SLEEP", fun v s => { s with retryBaseSleep := some v }),
   ("ZK_RETRY_MAX_SLEEP", fun v s => { s with retryMaxSleep := some v }),
   ("ZK_RETRY_MAX_TRIES", fun v s => { s with retryMaxTries := some v }),
   ("HEALTH_CHECK_NAME", fun v s => { s with healthCheckName := some v }),
   ("TASK_LOCK_TIMEOUT", fun v s => { s with taskLockTimeout := some v })]

/-- Sets what a name stands for; other names are not looked at. -/
def set (s : Settings) (name : String) (v : Value) : Settings :=
  match byName.find? (·.1 = name) with
  | some (_, change) => change v s
  | none => s

/-- The variable that the environment gives a connect string in. -/
def connectStringVariable : String := "ZOOKEEPER_CONNECT_STRING"

/-- Sets a variable of the environment; only one is looked at. -/
def setVariable (s : Settings) (name value : String) : Settings :=
  if name = connectStringVariable then { s with environment := some value } else s

/-- Sets several settings and variables. -/
def setAll (s : Settings) (values : List (String × Value)) (environment : List (String × String)) :
    Settings :=
  let s := values.foldl (fun s e => s.set e.1 e.2) s
  environment.foldl (fun s e => s.setVariable e.1 e.2) s

/-! ## What is in force -/

def defaultConnectString : String := "localhost:2181"

/-- Whether the application starts a client. -/
def isEnabled (s : Settings) : Value := s.enabled.getD (.bool true)

/-- The connect string in force, trimmed: the setting, else the environment, else the default. -/
def connectStringInForce (s : Settings) : String :=
  let explicit := match s.connectString with
    | some v => if v.isTruthy then Text.trimText v.display else ""
    | none => ""
  let fromEnvironment := Text.trimText (s.environment.getD "")
  if explicit ≠ "" then explicit
  else if fromEnvironment ≠ "" then fromEnvironment
  else defaultConnectString

/-- Seconds that a session outlives its connection. -/
def sessionTimeoutInForce (s : Settings) : Value := s.sessionTimeout.getD (.float 60.0)

/-- Seconds to wait for the first connection. -/
def connectionTimeoutInForce (s : Settings) : Value := s.connectionTimeout.getD (.float 15.0)

/-- Seconds before the first retry. -/
def retryBaseSleepInForce (s : Settings) : Value := s.retryBaseSleep.getD (.float 0.5)

/-- Seconds that no retry waits longer than. -/
def retryMaxSleepInForce (s : Settings) : Value := s.retryMaxSleep.getD (.float 10.0)

def retryMaxTriesInForce (s : Settings) : Value := s.retryMaxTries.getD (.int 29)

/-- The name that a health check is reported under. -/
def healthCheckNameInForce (s : Settings) : Value := s.healthCheckName.getD (.text "zookeeper")

/-- Seconds after which the lock of a task expires. -/
def taskLockTimeoutInForce (s : Settings) : Value := s.taskLockTimeout.getD (.int 3600)

end Settings

end TimedLock
