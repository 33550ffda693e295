import TimedLock.Value.Arithmetic

/-!
# Timeouts and waits

A caller gives a timeout either as a length of time, which is exact, or as an amount of a unit,
seconds unless said otherwise. `Timeout.resolve` brings both to one form, and every way of taking a
lock starts with it; resolving again changes nothing (`resolve_resolve`). A lock on a coordination
service is then asked to wait in seconds, or not to wait at all.
-/

namespace TimedLock

namespace Timeout

/-- A timeout that is not negative, as it is. -/
def accept (time : Value) (unit : TimeUnit) : Except Fault (Value × TimeUnit) := do
  if ← time.before (.int 0) then .error (Problem.negativeTimeout time unit).fault
  else .ok (time, unit)

/-- The time and unit that a lock is asked to wait for. A length of time becomes nanoseconds and
takes no unit; a negative timeout is refused. -/
def resolve (timeout : Value) (unit : Option TimeUnit) : Except Fault (Value × TimeUnit) :=
  match timeout, unit with
  | .duration _, some _ => .error Problem.unitWithDuration.fault
  | .duration micros, none => accept (.int (1000 * micros)) .nanoseconds
  | time, unit => accept time (unit.getD .seconds)

/-- A number is accepted unless it is below zero. -/
theorem accept_of_quantity {time : Value} {q : Number.Quantity} (h : time.quantity? = some q)
    (unit : TimeUnit) :
    accept time unit
      = if q.lt .zero then .error (Problem.negativeTimeout time unit).fault
        else .ok (time, unit) := by
  have hbefore : time.before (.int 0) = .ok (q.lt .zero) := by
    unfold Value.before
    rw [h]
    rfl
  unfold accept
  rw [hbefore]
  cases q.lt .zero <;> rfl

/-- A time that is accepted is no length of time, and is accepted as it is. -/
theorem accept_eq_ok {time v : Value} {unit u : TimeUnit} (h : accept time unit = .ok (v, u)) :
    v = time ∧ u = unit ∧ ∀ micros, time ≠ .duration micros := by
  unfold accept at h
  cases hb : time.before (.int 0) with
  | error f => rw [hb] at h; cases h
  | ok b =>
    rw [hb] at h
    cases b with
    | true => cases h
    | false =>
      cases h
      refine ⟨rfl, rfl, ?_⟩
      rintro micros rfl
      cases hb

/-- Resolving what was resolved changes nothing. -/
theorem resolve_resolve {timeout time : Value} {unit : Option TimeUnit} {u : TimeUnit}
    (h : resolve timeout unit = .ok (time, u)) : resolve time (some u) = .ok (time, u) := by
  have accepted {v : Value} {w : TimeUnit} (h : accept v w = .ok (time, u)) :
      resolve time (some u) = .ok (time, u) := by
    obtain ⟨rfl, rfl, hd⟩ := accept_eq_ok h
    unfold resolve
    split
    · exact absurd rfl (hd _)
    · exact absurd rfl (hd _)
    · exact h
  unfold resolve at h
  split at h
  · cases h
  · exact accepted h
  · exact accepted h

end Timeout

/-- How a lock on a coordination service is asked to wait. -/
inductive Wait
  | immediate
  | upTo (seconds : Value)

/-- The wait for a time: none for what is not above zero seconds. -/
def Wait.ofTime (time : Value) (unit : TimeUnit) : Except Fault Wait := do
  let seconds ← unit.toSeconds time
  if ← seconds.atMost (.int 0) then .ok .immediate else .ok (.upTo seconds)

end TimedLock
