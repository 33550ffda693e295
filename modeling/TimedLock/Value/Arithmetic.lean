import TimedLock.Number.Rounding
import TimedLock.Problem
import TimedLock.Value.Compare

/-!
# Arithmetic on values

Only what time needs: order, the length of an amount in a unit, and moving a clock. An amount that
is no number is refused the way its kind is refused by the operation.
-/

namespace TimedLock

open Number

namespace Value

/-- Whether `a` is before `b`, for numbers. -/
def before (a b : Value) : Except Fault Bool :=
  match a.quantity?, b.quantity? with
  | some p, some q => .ok (p.lt q)
  | _, _ => .error (Problem.unordered "<" a.kindName b.kindName).fault

/-- Whether `a` is at most `b`, for numbers. -/
def atMost (a b : Value) : Except Fault Bool :=
  match a.quantity?, b.quantity? with
  | some p, some q => .ok (p.le q)
  | _, _ => .error (Problem.unordered "<=" a.kindName b.kindName).fault

/-- The double nearest to a number, where the operation `symbol` of doubles asks for one. -/
def toFloat (symbol : String) (v : Value) : Except Fault Float :=
  let ofWhole (n : Int) : Except Fault Float :=
    match ofQuotient? n 1 with
    | some x => .ok x
    | none => .error Problem.integerTooLarge.fault
  match v with
  | .bool b => ofWhole (if b then 1 else 0)
  | .int n => ofWhole n
  | .float x => .ok x
  | v => .error (Problem.unsupported symbol "float" v.kindName).fault

/-- `x` plus an amount. -/
def addedTo (x : Float) (amount : Value) : Except Fault Float :=
  (amount.toFloat "+").map (x + ·)

/-- A reading of a clock, moved on by an amount. -/
def movedOn (x : Float) (amount : Value) : Except Fault Float :=
  (amount.toFloat "+=").map (x + ·)

/-- The days that a length of time may have, in either direction. -/
def dayLimit : Nat := 999999999

/-- A length of time, if it is not too long to be one. -/
def ofMicros (micros : Int) : Except Fault Value :=
  let days := (Text.durationParts micros).days
  if days < -2147483648 || 2147483647 < days then .error Problem.daysBeyondWord.fault
  else if dayLimit < days.natAbs then .error (Problem.durationTooLong days).fault
  else .ok (.duration micros)

/-! ### Repetition -/

/-- The most parts of a repeated value that is looked at. -/
def repetitionLimit : Nat := 10000000

/-- Something repeated, unless there would be too much of it. -/
def repeated {α : Type} (count : Nat) (items : List α) (f : List α → Value) :
    Except Fault Value :=
  if repetitionLimit < count * items.length then .error Problem.repetitionTooLarge.fault
  else .ok (f (List.replicate (if items.isEmpty then 0 else count) items).flatten)

/-- A value taken `count` times: numbers and lengths of time are multiplied, and what has parts is
repeated. -/
def times (v : Value) (count : Nat) : Except Fault Value :=
  match v with
  | .bool b => .ok (.int (if b then count else 0))
  | .int n => .ok (.int (n * count))
  | .float x => .ok (.float (x * Float.ofNat count))
  | .duration micros => ofMicros (micros * count)
  | .text s => repeated count s.toList (.text ∘ String.ofList)
  | .bytes data => repeated count data .bytes
  | .list items => repeated count items .list
  | .tuple items => repeated count items .tuple
  | v => .error (Problem.unsupported "*" v.kindName "int").fault

/-- The bytes that a character takes in a text whose widest character it is. -/
def characterWidth (c : Char) : Nat :=
  if c.toNat < 0x100 then 1 else if c.toNat < 0x10000 then 2 else 4

/-- The bytes that the parts of a value take: text takes its widest character for each, bytes take
one and values take eight. -/
def storage : Value → Nat
  | .text s => s.length * (s.toList.map characterWidth).foldl max 0
  | .bytes data => data.length
  | .list items | .tuple items => 8 * items.length
  | _ => 0

/-- The bytes that a repeated value may take where it is made and not looked at. -/
def memoryLimit : Nat := 0x800000000

/-- Refuses a value that has no room when it is taken `count` times. -/
def requireRoom (v : Value) (count : Nat) : Except Fault Unit :=
  if memoryLimit < count * v.storage then .error Problem.repetitionTooLarge.fault else .ok ()

end Value

namespace TimeUnit

/-- An amount of this unit in nanoseconds. -/
def toNanos (u : TimeUnit) (amount : Value) : Except Fault Value := amount.times u.nanos

/-- How many nanoseconds there are in a second. -/
def perSecond : Nat := TimeUnit.seconds.nanos

/-- A whole number of this unit in seconds, rounded once. -/
def wholeToSeconds (u : TimeUnit) (n : Int) : Except Fault Float :=
  match ofQuotient? (n * u.nanos) perSecond with
  | some x => .ok x
  | none => .error Problem.quotientTooLarge.fault

/-- An amount of this unit in seconds. A whole number is rounded once; a double is multiplied and
then divided, each with its own rounding. A length of time stays one, to the nearest microsecond;
what can only be repeated has no seconds. -/
def toSeconds (u : TimeUnit) (amount : Value) : Except Fault Value :=
  match amount with
  | .bool b => .float <$> u.wholeToSeconds (if b then 1 else 0)
  | .int n => .float <$> u.wholeToSeconds n
  | .float x => .ok (.float (x * Float.ofNat u.nanos / Float.ofNat perSecond))
  | .duration micros => do
    let _ ← Value.ofMicros (micros * u.nanos)
    Value.ofMicros (nearestWhole (micros * u.nanos) perSecond)
  | .null | .dict _ | .task | .phase _ =>
    .error (Problem.unsupported "*" amount.kindName "int").fault
  | v => do
    v.requireRoom u.nanos
    .error (Problem.unsupported "/" v.kindName "int").fault

/-- The unit of a length in nanoseconds. -/
def ofNanos (value : Value) : Except Fault TimeUnit :=
  match all.find? fun u => (Value.int u.nanos).same value with
  | some u => .ok u
  | none => .error (Problem.notAUnit value).fault

/-- The unit of a name, which must be one. -/
def named (name : String) : Except Fault TimeUnit :=
  match ofName? name with
  | some u => .ok u
  | none => .error (Problem.unknownUnit (.text name)).fault

end TimeUnit

end TimedLock
