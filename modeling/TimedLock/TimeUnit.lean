/-!
# Time units

A unit is known by its published name and by its length in nanoseconds.
-/

namespace TimedLock

/-- The units that amounts of time are given in. -/
inductive TimeUnit
  | nanoseconds
  | microseconds
  | milliseconds
  | seconds
  | minutes
  | hours
  | days
deriving DecidableEq, Repr

namespace TimeUnit

/-- The length of a unit in nanoseconds. -/
def nanos : TimeUnit → Nat
  | .nanoseconds => 1
  | .microseconds => 1000
  | .milliseconds => 1000000
  | .seconds => 1000000000
  | .minutes => 60 * 1000000000
  | .hours => 60 * 60 * 1000000000
  | .days => 24 * 60 * 60 * 1000000000

/-- The published name of a unit. -/
def name : TimeUnit → String
  | .nanoseconds => "NANOSECONDS"
  | .microseconds => "MICROSECONDS"
  | .milliseconds => "MILLISECONDS"
  | .seconds => "SECONDS"
  | .minutes => "MINUTES"
  | .hours => "HOURS"
  | .days => "DAYS"

/-- The units from the shortest to the longest. -/
def all : List TimeUnit :=
  [.nanoseconds, .microseconds, .milliseconds, .seconds, .minutes, .hours, .days]

theorem mem_all (u : TimeUnit) : u ∈ all := by cases u <;> simp [all]

/-- The unit of a name. -/
def ofName? (s : String) : Option TimeUnit := all.find? (·.name = s)

@[simp]
theorem ofName?_name (u : TimeUnit) : ofName? u.name = some u := by cases u <;> decide

theorem nanos_pos (u : TimeUnit) : 0 < u.nanos := by cases u <;> decide

end TimeUnit

end TimedLock
