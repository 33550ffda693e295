import TimedLock.Fault
import TimedLock.Text.Integer

/-!
# Problems of a rehearsal

What can be wrong with what a rehearsal is given, or with what it is to show, and is never wrong in
the library itself.
-/

namespace TimedLock

namespace Rehearsal

/-- What a rehearsal refuses. -/
inductive Problem
  /-- A text is no decimal number. -/
  | badDecimal (text : String)
  /-- A whole number has too many digits to be written. -/
  | numeralTooLong
  /-- A host is only half in brackets. -/
  | unpairedBracket
  /-- A host in brackets is no numeric address. -/
  | notNumericAddress (text : String)
  /-- A host in brackets is four numbers with dots. -/
  | dottedInBrackets
  /-- A host in brackets is of a later version, and malformed. -/
  | badFutureAddress
  /-- A host holds a character that stands for a mark. -/
  | disguisedMark (host : String)

namespace Problem

/-- The wording of a problem. -/
def message : Problem → String
  | .badDecimal text =>
    let shown := Text.quoted text
    s!"could not convert string to float: {shown}"
  | .numeralTooLong =>
    "Exceeds the limit (4300 digits) for integer string conversion; "
      ++ "use sys.set_int_max_str_digits() to increase the limit"
  | .unpairedBracket => "Invalid IPv6 URL"
  | .notNumericAddress text =>
    let shown := Text.quoted text
    s!"{shown} does not appear to be an IPv4 or IPv6 address"
  | .dottedInBrackets => "An IPv4 address cannot be in brackets"
  | .badFutureAddress => "IPvFuture address is invalid"
  | .disguisedMark host =>
    s!"netloc '{host}' contains invalid characters under NFKC normalization"

/-- A problem raised as a fault: each of them is a bad value. -/
def fault (p : Problem) : Fault := .simple .badValue (some (.text p.message))

end Problem

end Rehearsal

/-- Refuses a whole number that has too many digits to be written. -/
def Value.requireWritable (v : Value) : Except Fault Value :=
  match v with
  | .int n =>
    if Text.maxIntegerDigits < (Nat.toDigits 10 n.natAbs).length then
      .error Rehearsal.Problem.numeralTooLong.fault
    else .ok v
  | v => .ok v

end TimedLock
