import TimedLock.Text.Blank
import TimedLock.Text.DecimalDigit

/-!
# Reading whole numbers

A whole number is a sign, if any, and decimal digits of any script, with single underscores
allowed between two digits. Blank characters around it are skipped; the information separators
U+001C to U+001F are blank elsewhere and not here.

A numeral of more than 4300 digits is refused before what follows it is looked at.
-/

namespace TimedLock.Text

/-- Why a text is not read as a whole number. -/
inductive IntegerError
  | malformed
  | tooLong (digits : Nat)
deriving DecidableEq, Repr

/-- The longest numeral that is read. -/
def maxIntegerDigits : Nat := 4300

/-- Digits of other scripts become ASCII digits, blank characters beyond ASCII become spaces, and
everything else beyond ASCII becomes a question mark, which no numeral holds. -/
def plainNumeral (cs : List Char) : List Char :=
  cs.map fun c =>
    if c.toNat < 127 then c
    else if isBlank c then ' '
    else match digitValue? c with
      | some d => Char.ofNat (48 + d)
      | none => '?'

/-- The value of an ASCII digit. -/
def asciiDigit? (c : Char) : Option Nat :=
  if 48 ≤ c.toNat && c.toNat ≤ 57 then some (c.toNat - 48) else none

/-- The digits at the front of a text and what follows them. `gap` says that an underscore was
read last; an underscore that no digit precedes or follows refuses the whole text. -/
def scanDigits (gap : Bool) (digits : List Nat) : List Char → Option (List Nat × List Char)
  | [] => if gap then none else some (digits.reverse, [])
  | c :: rest =>
    match asciiDigit? c with
    | some d => scanDigits false (d :: digits) rest
    | none =>
      if c = '_' then
        if gap || digits.isEmpty then none else scanDigits true digits rest
      else if gap then none
      else some (digits.reverse, c :: rest)

/-- The number that decimal digits denote, most significant first. -/
def ofDigits (digits : List Nat) : Nat := digits.foldl (fun n d => 10 * n + d) 0

/-- Splits a sign off: the flag says that the number is negative. -/
def splitSign : List Char → Bool × List Char
  | '-' :: rest => (true, rest)
  | '+' :: rest => (false, rest)
  | cs => (false, cs)

/-- Reads a whole number. -/
def readInteger (cs : List Char) : Except IntegerError Int :=
  let (negative, numeral) := splitSign (trimBy isAsciiBlank (plainNumeral cs))
  match scanDigits false [] numeral with
  | none => .error .malformed
  | some (digits, rest) =>
    if maxIntegerDigits < digits.length then .error (.tooLong digits.length)
    else if digits.isEmpty || !rest.isEmpty then .error .malformed
    else .ok (if negative then -(ofDigits digits : Int) else ofDigits digits)

example : readInteger " +1_0 ".toList = .ok 10 := by cbv
example : readInteger "1__0".toList = .error .malformed := by cbv

end TimedLock.Text
