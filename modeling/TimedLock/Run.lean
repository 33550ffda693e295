import TimedLock.Problem

/-!
# Computations

Locks, clients and tasks act on a world that this library knows nothing about, so everything here
is stated for computations over an arbitrary world `σ`. A computation ends with a result or a
fault, and in either case it leaves a world behind: a fault does not undo what was done before it.

`Run.attempt` turns the fault of a computation into a result, which is how every clean-up in this
library is written: attempt the work, clean up, then go on with what the work ended with.
-/

namespace TimedLock

/-- A computation over a world `σ` with results in `α`. -/
def Run (σ α : Type) : Type := σ → Except Fault α × σ

namespace Run

variable {σ β α γ : Type}

/-- Ends with a result. -/
protected def pure (a : α) : Run σ α := fun s => (.ok a, s)

/-- Goes on with the result of `x`, or stops with its fault. -/
protected def bind (x : Run σ α) (f : α → Run σ γ) : Run σ γ := fun s =>
  match x s with
  | (.ok a, t) => f a t
  | (.error fault, t) => (.error fault, t)

instance : Monad (Run σ) where
  pure := Run.pure
  bind := Run.bind

/-- Ends with a fault. -/
def fail (fault : Fault) : Run σ α := fun s => (.error fault, s)

/-- Refuses to go on. -/
def refuse (p : Problem) : Run σ α := fail p.fault

/-- Ends as told. -/
def ofExcept (outcome : Except Fault α) : Run σ α := fun s => (outcome, s)

/-- Runs `x` and tells how it ended. -/
def attempt (x : Run σ α) : Run σ (Except Fault α) := fun s => (.ok (x s).1, (x s).2)

/-- Looks at the world. -/
def look (f : σ → α) : Run σ α := fun s => (.ok (f s), s)

/-- Changes the world. -/
def change (f : σ → σ) : Run σ Unit := fun s => (.ok (), f s)

/-- Runs `x` and goes on with `handler` where it ends with a fault that `caught` picks. -/
def recover (x : Run σ α) (caught : Fault → Bool) (handler : Fault → Run σ α) : Run σ α := do
  match ← x.attempt with
  | .ok a => pure a
  | .error fault => if caught fault then handler fault else fail fault

/-- Runs `x`, then `cleanUp` however `x` ended. A fault of `cleanUp` takes the place of how `x`
ended. -/
def thenAlways (x : Run σ α) (cleanUp : Run σ Unit) : Run σ α := do
  let outcome ← x.attempt
  cleanUp
  ofExcept outcome

/-- Runs `x` in a world with a private part, which is gone afterwards. -/
def withPrivate (start : β) (x : Run (σ × β) α) : Run σ α := fun s =>
  let (outcome, (t, _)) := x (s, start)
  (outcome, t)

/-- Runs `x` without looking at a private part. -/
def inShared (x : Run σ α) : Run (σ × β) α := fun (s, b) =>
  let (outcome, t) := x s
  (outcome, (t, b))

/-- Runs `step` until it gives a result, at most `bound` times. -/
def untilSome (step : Run σ (Option α)) : (bound : Nat) → Run σ α
  | 0 => refuse .pollLimit
  | bound + 1 => do
    match ← step with
    | some a => pure a
    | none => untilSome step bound

/-! ## Laws -/

@[ext]
theorem ext {x y : Run σ α} (h : ∀ s, x s = y s) : x = y := funext h

theorem pure_apply (a : α) (s : σ) : (pure a : Run σ α) s = (.ok a, s) := rfl

theorem bind_apply (x : Run σ α) (f : α → Run σ γ) (s : σ) :
    (x >>= f) s = match x s with
      | (.ok a, t) => f a t
      | (.error fault, t) => (.error fault, t) := rfl

theorem bind_ok {x : Run σ α} {s t : σ} {a : α} (f : α → Run σ γ) (h : x s = (.ok a, t)) :
    (x >>= f) s = f a t := by
  rw [bind_apply, h]

theorem bind_error {x : Run σ α} {s t : σ} {fault : Fault} (f : α → Run σ γ)
    (h : x s = (.error fault, t)) : (x >>= f) s = (.error fault, t) := by
  rw [bind_apply, h]

instance : LawfulMonad (Run σ) :=
  LawfulMonad.mk' (Run σ)
    (fun x => by
      ext s : 1
      change (match x s with
        | (.ok a, t) => (.ok (id a), t)
        | (.error fault, t) => (.error fault, t)) = x s
      rcases x s with ⟨_ | _, t⟩ <;> rfl)
    (fun _ _ => rfl)
    (fun x f g => by
      ext s : 1
      simp only [bind_apply]
      rcases x s with ⟨_ | _, t⟩ <;> rfl)

theorem attempt_apply (x : Run σ α) (s : σ) : x.attempt s = (.ok (x s).1, (x s).2) := rfl

theorem fail_apply (fault : Fault) (s : σ) : (fail fault : Run σ α) s = (.error fault, s) := rfl

theorem look_apply (f : σ → α) (s : σ) : look f s = (.ok (f s), s) := rfl

theorem change_apply (f : σ → σ) (s : σ) : change f s = (.ok (), f s) := rfl

theorem ofExcept_apply (outcome : Except Fault α) (s : σ) :
    (ofExcept outcome : Run σ α) s = (outcome, s) := rfl

/-- Attempting a computation and then ending as it did changes nothing. -/
theorem attempt_bind_ofExcept (x : Run σ α) : (x.attempt >>= ofExcept) = x := by
  ext s : 1
  rfl

/-- A clean-up that always returns leaves the outcome alone. -/
theorem thenAlways_fst {x : Run σ α} {cleanUp : Run σ Unit} {s : σ}
    (h : (cleanUp (x s).2).1 = .ok ()) : (x.thenAlways cleanUp s).1 = (x s).1 := by
  unfold thenAlways
  rw [bind_ok _ (attempt_apply x s)]
  rcases hc : cleanUp (x s).2 with ⟨outcome, t⟩
  rw [hc] at h
  cases h
  rw [bind_ok _ hc]
  rfl

end Run

/-! ## Parts of the world -/

/-- A part of the world that can be read and written. -/
structure Slot (σ α : Type) where
  read : σ → α
  write : α → σ → σ

namespace Slot

variable {σ α β : Type}

/-- What the part holds. -/
def get (slot : Slot σ α) : Run σ α := .look slot.read

/-- Puts a value into the part. -/
def set (slot : Slot σ α) (a : α) : Run σ Unit := .change (slot.write a)

/-- The private part of a world. -/
def ofPrivate : Slot (σ × β) β := ⟨Prod.snd, fun b s => (s.1, b)⟩

/-- Reading gives what was written last. -/
class Lawful (slot : Slot σ α) : Prop where
  read_write : ∀ a s, slot.read (slot.write a s) = a
  write_write : ∀ a b s, slot.write a (slot.write b s) = slot.write a s
  write_read : ∀ s, slot.write (slot.read s) s = s

instance : Lawful (ofPrivate : Slot (σ × β) β) := ⟨fun _ _ => rfl, fun _ _ _ => rfl, fun _ => rfl⟩

end Slot

end TimedLock
