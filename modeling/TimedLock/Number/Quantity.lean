import TimedLock.Number.Pattern

/-!
# Quantities

Whole numbers and double-precision numbers are compared by what they stand for: an exact
rational, one of the two infinities, or nothing at all. No comparison rounds, and nothing is
ordered with an undefined quantity, itself included.
-/

namespace TimedLock.Number

/-- What a number stands for. -/
inductive Quantity
  | finite (value : Rat)
  | infinite (negative : Bool)
  | undefined

/-- `m · 2 ^ e` as an exact rational. -/
def scaled (m e : Int) : Rat :=
  if 0 ≤ e then (m * twoTo e.toNat : Int) else mkRat m (twoTo (-e).toNat)

namespace Quantity

/-- What a whole number stands for. -/
def ofInt (n : Int) : Quantity := .finite n

/-- What the parts of a double stand for. Both zeros stand for zero. -/
def ofParts : Parts → Quantity
  | ⟨negative, m, some e⟩ => .finite (scaled (if negative then -m else m) e)
  | ⟨negative, 0, none⟩ => .infinite negative
  | ⟨_, _ + 1, none⟩ => .undefined

/-- What a double stands for. -/
def ofFloat (x : Float) : Quantity := ofParts (parts x)

/-- The strict order. -/
def lt : Quantity → Quantity → Bool
  | .finite a, .finite b => a < b
  | .infinite negative, .finite _ => negative
  | .finite _, .infinite negative => !negative
  | .infinite m, .infinite n => m && !n
  | _, _ => false

/-- The order. -/
def le : Quantity → Quantity → Bool
  | .finite a, .finite b => a ≤ b
  | .infinite negative, .finite _ => negative
  | .finite _, .infinite negative => !negative
  | .infinite m, .infinite n => m || !n
  | _, _ => false

/-- Equality, which no undefined quantity has. -/
def same (a b : Quantity) : Bool := a.le b && b.le a

/-- The zero of the order. -/
def zero : Quantity := .finite 0

/-- Whether a quantity is defined. -/
def isDefined : Quantity → Bool
  | .undefined => false
  | _ => true

theorem le_of_lt {a b : Quantity} (h : a.lt b = true) : a.le b = true := by
  cases a <;> cases b <;> simp_all [lt, le]
  exact Rat.le_of_lt h

/-- Of two defined quantities one is at most the other. -/
theorem not_lt_iff_le {a b : Quantity} (ha : a.isDefined = true) (hb : b.isDefined = true) :
    b.lt a = false ↔ a.le b = true := by
  cases a with
  | undefined => cases ha
  | finite p =>
    cases b with
    | undefined => cases hb
    | infinite n => simp [lt, le]
    | finite q =>
      simp only [lt, le, decide_eq_false_iff_not, decide_eq_true_eq]
      exact Rat.not_lt
  | infinite m => cases b <;> simp_all [lt, le, isDefined]; rename_i n; cases m <;> cases n <;> simp

theorem lt_undefined (a : Quantity) : a.lt .undefined = false := by cases a <;> rfl

theorem undefined_lt (a : Quantity) : undefined.lt a = false := by cases a <;> rfl

end Quantity

end TimedLock.Number
