import TimedLock.Text.Digest
import TimedLock.Value.Arithmetic

/-!
# The lock names of tasks

Calls of one task that work on different things may run side by side. A guarded task can name the
parameter that tells the things apart, and its value then becomes part of the lock name.

`paramValue` finds the value in the arguments of a call, `taskLockName` puts it into the name.
-/

namespace TimedLock.Task

/-- The arguments of a call. -/
structure Arguments where
  positional : List Value
  named : List (String × Value)

namespace Arguments

/-- The value of a named argument. -/
def named? (args : Arguments) (name : String) : Option Value :=
  (args.named.find? (·.1 = name)).map (·.2)

/-- The first positional argument of the task, after the task itself if it is bound. -/
def first (args : Arguments) : Value :=
  match args.positional with
  | [] => .null
  | .task :: rest => .ofOption rest.head?
  | v :: _ => v

end Arguments

/-- The value that a parameter name picks from the arguments of a call: the named argument, or the
first positional one where that is missing or does not count as true. -/
def paramValue (args : Arguments) (param : Value) : Except Fault Value :=
  match param.changeableKind? with
  | some kind => .error (Problem.unhashable kind).fault
  | none =>
    let named := match param with
      | .text name => Value.ofOption (args.named? name)
      | _ => .null
    .ok (if named.isTruthy || args.positional.isEmpty then named else args.first)

/-- The longest text of a parameter value that is put into a lock name as it is. -/
def longestPlainValue : Nat := 200

/-- How many digits of its digest stand for a longer one. -/
def digestDigits : Nat := 16

/-- The part of a lock name that stands for a parameter value. -/
def valuePart (value : Value) : String :=
  let shown := value.display
  if longestPlainValue < shown.length then Text.digestPrefix digestDigits shown else shown

/-- The lock name of a task for a parameter value. A value that does not count as true leaves the
name as it is. -/
def taskLockName (name value : Value) : Value :=
  if value.isTruthy then .text (name.display ++ "_" ++ valuePart value) else name

end TimedLock.Task
