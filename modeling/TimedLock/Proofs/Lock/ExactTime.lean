import TimedLock.Lock.Cached
import TimedLock.Proofs.Number.Difference

/-!
# Time as rational numbers

Polling is stated for any measure of time. This module says which rational numbers stand behind a
measure (`Measured`), and that telling whether time is left, and taking the shorter of two pauses,
do what they do for rational numbers. Both rounds nothing; only the sums and the differences of
doubles do, and no more than that is lost between doubles and time that is told exactly.

Rational numbers are a measure of time themselves, in which sums and differences are exact.
-/

namespace TimedLock

open Number

/-- The rational number that a quantity is, if it is finite. -/
def Number.Quantity.finite? : Quantity → Option ℚ
  | .finite q => some q
  | _ => none

theorem Number.Quantity.finite?_eq_some {a : Quantity} {q : ℚ} (h : a.finite? = some q) :
    a = .finite q := by
  cases a with
  | finite p => rw [Option.some.inj h]
  | infinite _ => cases h
  | undefined => cases h

namespace Lock

/-- A measure of time with the rational numbers that stand behind it, where there are any. -/
class Measured (τ : Type) (π : outParam Type) [Pace τ π] where
  /-- The time that a reading, or a difference of readings, stands for. -/
  value : τ → Option ℚ
  /-- How long a pause is. -/
  length : π → Option ℚ
  isOver_iff : ∀ {left : τ} {q : ℚ}, value left = some q → (Pace.isOver left = true ↔ q ≤ 0)
  /-- The pause is the shorter one of the interval and what is left. -/
  pause_eq : ∀ {interval : π} {left : τ} {p q : ℚ}, length interval = some p → value left = some q →
    ∃ pause, Pace.pause interval left = .ok pause ∧ length pause = some (min p q)
  /-- Even where differences round, nothing is left from the deadline on. -/
  isOver_left : ∀ {deadline now : τ} {d c : ℚ}, value deadline = some d → value now = some c →
    d ≤ c → Pace.isOver (Pace.left deadline now) = true

/-! ## Doubles -/

theorem pause_eq_of_before {interval : Value} {left : Float} {isLess : Bool}
    (h : (Value.float left).before interval = .ok isLess) :
    Pace.pause interval left = .ok (if isLess then .float left else interval) := by
  show (do
    if ← (Value.float left).before interval then .ok (.float left) else .ok interval :
      Except Fault Value) = _
  rw [h]
  cases isLess <;> rfl

instance : Measured Float Value where
  value x := (Quantity.ofFloat x).finite?
  length v := v.quantity?.bind Quantity.finite?
  isOver_iff h := by
    show (Quantity.le _ .zero = true) ↔ _
    rw [Quantity.finite?_eq_some h]
    exact decide_eq_true_iff
  pause_eq {interval left p q} hp hq := by
    obtain ⟨a, ha, hfinite⟩ := Option.bind_eq_some_iff.1 hp
    have hleft := Quantity.finite?_eq_some hq
    have hbefore : (Value.float left).before interval = .ok (decide (q < p)) := by
      unfold Value.before
      rw [ha, show (Value.float left).quantity? = some (.ofFloat left) from rfl, hleft,
        Quantity.finite?_eq_some hfinite]
      rfl
    refine ⟨_, pause_eq_of_before hbefore, ?_⟩
    by_cases hlt : q < p
    · rw [if_pos (decide_eq_true hlt), min_eq_right hlt.le]
      exact hq
    · rw [if_neg (by simpa using hlt), min_eq_left (not_lt.1 hlt)]
      exact hp
  isOver_left hd hc hle :=
    sub_le_zero (Quantity.finite?_eq_some hd) (Quantity.finite?_eq_some hc) hle

/-! ## Rational numbers -/

instance : Pace ℚ ℚ where
  left deadline now := deadline - now
  isOver left := decide (left ≤ 0)
  pause interval left := .ok (min interval left)

instance : Measured ℚ ℚ where
  value := some
  length := some
  isOver_iff h := by
    rw [Option.some.inj h]
    exact decide_eq_true_iff
  pause_eq hp hq := by
    rw [Option.some.inj hp, Option.some.inj hq]
    exact ⟨_, rfl, rfl⟩
  isOver_left hd hc hle := by
    rw [Option.some.inj hd, Option.some.inj hc]
    exact decide_eq_true (sub_nonpos.2 hle)

end Lock

end TimedLock
