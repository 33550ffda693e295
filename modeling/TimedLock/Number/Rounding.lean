import TimedLock.Number.Pattern

/-!
# Rounding to double precision

A non-negative quotient of whole numbers is rounded to the nearest double, and to the one with
the even mantissa when it lies halfway. The result is given by its bit pattern, which grows with
the value: the pattern of `m · 2 ^ e` is `(e + 1074) · 2 ^ 52 + m`, and a mantissa that rounds up
to `2 ^ 53` carries into the exponent by itself. A pattern at the limit or above it says that the
quotient is too large.
-/

namespace TimedLock.Number

/-- The nearest whole number to `num / den`; of two, the even one. -/
def roundHalfEven (num den : Nat) : Nat :=
  let q := num / den
  let twice := 2 * (num % den)
  if twice < den then q
  else if den < twice then q + 1
  else q + q % 2

/-- The nearest whole number to a quotient that may be negative; of two, the even one. -/
def nearestWhole (num : Int) (den : Nat) : Int :=
  let magnitude := roundHalfEven num.natAbs den
  if num < 0 then -magnitude else magnitude

/-- The exponent `k` with `2 ^ k ≤ num / den < 2 ^ (k + 1)`, for positive arguments. -/
def binaryExponent (num den : Nat) : Int :=
  let k : Int := (Nat.log2 num : Int) - Nat.log2 den
  let reaches := if 0 ≤ k then den * twoTo k.toNat ≤ num else den ≤ num * twoTo (-k).toNat
  if reaches then k else k - 1

/-- The bit pattern of the double nearest to `num / den`, as if exponents had no upper limit. -/
def nearestPattern (num den : Nat) : Nat :=
  if num = 0 then 0
  else
    let e := max (binaryExponent num den - 52) (-1074)
    let m := if 0 ≤ e then roundHalfEven num (den * twoTo e.toNat)
      else roundHalfEven (num * twoTo (-e).toNat) den
    (e + 1074).toNat * fractions + m

/-- The double nearest to `num / den`, if the quotient is not too large. -/
def ofQuotient? (num : Int) (den : Nat) : Option Float :=
  let pattern := nearestPattern num.natAbs den
  if h : pattern < patternLimit then some (ofPattern (num < 0) pattern h) else none

example : roundHalfEven 5 2 = 2 ∧ roundHalfEven 7 2 = 4 ∧ roundHalfEven 8 3 = 3 := by decide
example : nearestPattern 1 1 = 0x3FF0000000000000 := by decide
example : nearestPattern 1 10 = 0x3FB999999999999A := by decide
example : nearestPattern 9007199254740993 1 = nearestPattern 9007199254740992 1 := by decide

end TimedLock.Number
