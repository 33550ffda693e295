import TimedLock.Phase

/-!
# Values

Settings, timeouts, results and the arguments of tasks are values of the calling program, and this
library looks into them only where it must: whether one counts as true, which number it is, how it
reads in a message.
-/

namespace TimedLock

/-- A value of the calling program. -/
inductive Value
  | null
  | bool (b : Bool)
  | int (n : Int)
  | float (x : Float)
  | text (s : String)
  | bytes (data : List UInt8)
  | list (items : List Value)
  | tuple (items : List Value)
  /-- Entries in the order in which their keys were first given. -/
  | dict (entries : List (Value × Value))
  /-- A length of time in microseconds. -/
  | duration (micros : Int)
  /-- The running task itself, which a bound task gets as its first argument. -/
  | task
  | phase (p : Phase)
deriving Inhabited

namespace Value

/-- What a value of this kind is called in an error. -/
def kindName : Value → String
  | .null => "NoneType"
  | .bool _ => "bool"
  | .int _ => "int"
  | .float _ => "float"
  | .text _ => "str"
  | .bytes _ => "bytes"
  | .list _ => "list"
  | .tuple _ => "tuple"
  | .dict _ => "dict"
  | .duration _ => "datetime.timedelta"
  | .task => "BoundTask"
  | .phase _ => "ErrorType"

/-- Whether a value counts as true: zeros and empty values do not. -/
def isTruthy : Value → Bool
  | .null => false
  | .bool b => b
  | .int n => n ≠ 0
  | .float x => x != 0
  | .text s => s ≠ ""
  | .bytes data => !data.isEmpty
  | .list items => !items.isEmpty
  | .tuple items => !items.isEmpty
  | .dict entries => !entries.isEmpty
  | .duration micros => micros ≠ 0
  | .task => true
  | .phase _ => true

/-- `a`, or else `b` where `a` does not count as true. -/
def orElse (a b : Value) : Value := if a.isTruthy then a else b

/-- Whether a value is `null`. -/
def isNull : Value → Bool
  | .null => true
  | _ => false

/-- A value that may be missing. -/
def ofOption : Option Value → Value
  | none => .null
  | some v => v

mutual

/-- The kind of the part for which a value cannot be looked up by, if it has one: lists and
dictionaries can change, and a tuple that holds one can too. -/
def changeableKind? : Value → Option String
  | .list _ => some "list"
  | .dict _ => some "dict"
  | .tuple items => anyChangeableKind? items
  | _ => none

/-- The first changeable kind among some values. -/
def anyChangeableKind? : List Value → Option String
  | [] => none
  | v :: rest => (changeableKind? v).or (anyChangeableKind? rest)

end

end Value

end TimedLock
