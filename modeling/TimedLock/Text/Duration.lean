/-!
# The text of lengths of time

A length of time is a whole number of microseconds. It is shown as days, if there are any, and a
clock reading; days may be negative, and the clock reading never is.
-/

namespace TimedLock.Text

/-- A length of time as days, and seconds and microseconds within a day. -/
structure DurationParts where
  days : Int
  seconds : Nat
  micros : Nat
deriving DecidableEq, Repr

/-- Microseconds in a day. -/
def microsPerDay : Int := 86400000000

/-- Takes a length of time apart. Days are rounded down, so the rest lies within a day. -/
def durationParts (micros : Int) : DurationParts :=
  let rest := (micros % microsPerDay).toNat
  ⟨micros / microsPerDay, rest / 1000000, rest % 1000000⟩

/-- A number with zeros in front, up to a width. -/
def withZeros (width n : Nat) : String :=
  let digits := Nat.toDigits 10 n
  String.ofList (List.replicate (width - digits.length) '0' ++ digits)

/-- A length of time as it is shown in messages. -/
def durationText (micros : Int) : String :=
  let p := durationParts micros
  let days := if p.days = 0 then "" else if p.days.natAbs = 1 then s!"{p.days} day, "
    else s!"{p.days} days, "
  let hours := p.seconds / 3600
  let minutes := withZeros 2 (p.seconds / 60 % 60)
  let seconds := withZeros 2 (p.seconds % 60)
  let fraction := if p.micros = 0 then "" else "." ++ withZeros 6 p.micros
  s!"{days}{hours}:{minutes}:{seconds}{fraction}"

/-- A length of time by its parts; those that are zero are left out. -/
def durationLiteral (micros : Int) : String :=
  let p := durationParts micros
  let part (name : String) (n : Int) : List String := if n = 0 then [] else [s!"{name}={n}"]
  let given := part "days" p.days ++ part "seconds" p.seconds ++ part "microseconds" p.micros
  let shown := if given.isEmpty then "0" else ", ".intercalate given
  s!"datetime.timedelta({shown})"

example : durationParts (-1) = ⟨-1, 86399, 999999⟩ := by decide
example : durationText 108000000000 = "1 day, 6:00:00" := by decide +kernel
example : durationLiteral 0 = "datetime.timedelta(0)" := by decide +kernel

/-- Days, seconds and microseconds add up to the whole. -/
theorem durationParts_sum (micros : Int) :
    let p := durationParts micros
    p.days * microsPerDay + p.seconds * 1000000 + p.micros = micros := by
  simp only [durationParts, microsPerDay]
  omega

end TimedLock.Text
