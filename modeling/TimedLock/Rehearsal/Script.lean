import TimedLock.Run

/-!
# Scripts

In a rehearsal the world outside the library is played by doubles. A script says how a double
answers the next calls of each of its methods; when it is spent, the double answers by default.
-/

namespace TimedLock.Rehearsal

/-- How a double answers a call. -/
inductive Outcome
  | byDefault
  | returns (v : Value)
  | raises (fault : Fault)
deriving Inhabited

/-- The answers to come, by method. -/
abbrev Scripts := List (String × List Outcome)

namespace Scripts

/-- Replaces the answers of a method. -/
def replace (scripts : Scripts) (method : String) (outcomes : List Outcome) : Scripts :=
  (method, outcomes) :: scripts.filter (·.1 ≠ method)

/-- The next answer of a method, and the script without it. -/
def next (scripts : Scripts) (method : String) : Outcome × Scripts :=
  match scripts.find? (·.1 = method) with
  | some (_, outcome :: rest) => (outcome, scripts.replace method rest)
  | _ => (.byDefault, scripts)

end Scripts

/-- Answers a call the way an outcome says; `default` is what is done otherwise. -/
def Outcome.answer {σ : Type} (outcome : Outcome) (default : Run σ Value) : Run σ Value :=
  match outcome with
  | .byDefault => default
  | .returns v => pure v
  | .raises fault => .fail fault

end TimedLock.Rehearsal
