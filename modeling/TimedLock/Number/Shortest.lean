import TimedLock.Number.Pattern

/-!
# Shortest decimals

A double is written with the fewest significant digits that still tell it from every other
double; of the decimals of that length the nearest to the double is taken, and the even one of two
equally near.

The decimals that read back as the double form an interval. Grids of 1, 2, … 17 digits are tried
in turn, and on each grid only the two neighbours of the double can be nearest.
-/

namespace TimedLock.Number

/-- How many decimal digits a number has; zero has none. -/
def digitCount (n : Nat) : Nat := if n = 0 then 0 else (Nat.toDigits 10 n).length

/-- The exponent `k` with `10 ^ k ≤ num / den < 10 ^ (k + 1)`, for positive arguments. -/
def decimalExponent (num den : Nat) : Int :=
  if den ≤ num then (digitCount (num / den) : Int) - 1
  else -(digitCount ((den - 1) / num) : Int)

/-- The numerator and denominator of `m · 2 ^ e`. -/
def fraction (m : Nat) (e : Int) : Nat × Nat :=
  if 0 ≤ e then (m * twoTo e.toNat, 1) else (m, twoTo (-e).toNat)

/-- Whether `digits · 10 ^ place` reads back as the double `m · 2 ^ e`: it lies between the
midpoints to the neighbouring doubles, and may be a midpoint only if `m` is even. All is measured
in quarters of `2 ^ e`, since below a power of two the next double is half as far. -/
def readsBack (m : Nat) (e : Int) (digits : Nat) (place : Int) : Bool :=
  let low := if m = fractions && -1074 < e then 4 * m - 1 else 4 * m - 2
  let high := 4 * m + 2
  let (unit, parts) := fraction 1 (e - 2)
  let num := digits * parts * tenTo place.toNat
  let den := unit * tenTo (-place).toNat
  if m % 2 = 0 then low * den ≤ num && num ≤ high * den
  else low * den < num && num < high * den

/-- The decimal of a grid that is nearest to `m · 2 ^ e` among those that read back as it. -/
def onGrid? (m : Nat) (e : Int) (place : Int) : Option Nat :=
  let (num, den) := fraction m e
  let num := num * tenTo (-place).toNat
  let den := den * tenTo place.toNat
  let below := num / den
  let twice := 2 * (num % den)
  let belowFits := readsBack m e below place
  let aboveFits := readsBack m e (below + 1) place
  if belowFits && aboveFits then
    some (if twice < den || (twice = den && below % 2 = 0) then below else below + 1)
  else if belowFits then some below
  else if aboveFits then some (below + 1)
  else none

/-- The first hit on the grids of `count`, `count + 1`, … digits, `tries` grids in all. -/
def searchGrids (m : Nat) (e : Int) (top : Int) : (count tries : Nat) → Nat × Int
  | count, 0 => (0, top - count)
  | count, tries + 1 =>
    let place := top - (count - 1 : Int)
    match onGrid? m e place with
    | some digits => (digits, place)
    | none => searchGrids m e top (count + 1) tries

/-- The shortest decimal of a positive double `m · 2 ^ e`: whole digits and their decimal place.
Seventeen digits tell any two doubles apart. -/
def shortest (m : Nat) (e : Int) : Nat × Int :=
  let (num, den) := fraction m e
  searchGrids m e (decimalExponent num den) 1 17

example : shortest fractions (-53) = (5, -1) := by decide +kernel
example : shortest 7205759403792794 (-56) = (1, -1) := by decide +kernel

end TimedLock.Number
