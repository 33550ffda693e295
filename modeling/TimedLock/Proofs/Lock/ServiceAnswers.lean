import TimedLock.Lock.Lease
import TimedLock.Lock.Reentrant
import TimedLock.Proofs.Holding.Stages

/-!
# What mutexes make of the answers of their service

The two mutexes over a coordination service, operation by operation, whatever the service answers
and wherever it fails. Nothing is asked of the service, and nothing of where a mutex keeps its owner.

* Asking the service takes an expired wait for a no, and passes everything else on
  (`acquireWithin_of_answer`).
* A re-entrant mutex asks only on behalf of a thread that does not own it, and writes its owner down
  exactly if it was granted the lock (`Reentrant.acquire_asking`). The last release forgets the owner
  before the service is asked to take the lock back (`Reentrant.release_last`).
* A single-lease mutex asks for the lock exactly while it is not granted (`Lease.acquire_asking`), and
  asks the service to take it back exactly while it is (`Lease.release_asking`).
-/

namespace TimedLock

/-! ## Waits -/

/-- No problem of this library's own looks like an expired wait. -/
theorem Problem.kind_ne_waitExpired (p : Problem) : p.kind ≠ .waitExpired := by
  cases p <;> simp [kind]

/-- Every fault of a calculation is a problem of this library's own. -/
def OwnFaults {α : Type} (x : Except Fault α) : Prop :=
  ∀ fault, x = .error fault → ∃ p : Problem, fault = p.fault

namespace OwnFaults

variable {α β : Type} {x y : Except Fault α}

theorem ok (a : α) : OwnFaults (.ok a) := nofun

theorem problem (p : Problem) : OwnFaults (.error p.fault : Except Fault α) := by
  rintro _ ⟨⟩
  exact ⟨p, rfl⟩

theorem bind {f : α → Except Fault β} (hx : OwnFaults x) (hf : ∀ a, OwnFaults (f a)) :
    OwnFaults (x >>= f) := by
  cases x with
  | ok a => exact hf a
  | error fault =>
    rintro _ ⟨⟩
    exact hx fault rfl

theorem ite {c : Prop} [Decidable c] (hx : OwnFaults x) (hy : OwnFaults y) :
    OwnFaults (if c then x else y) := by
  split
  · exact hx
  · exact hy

end OwnFaults

theorem Value.ofMicros_ownFaults (micros : Int) : OwnFaults (ofMicros micros) :=
  .ite (.problem _) (.ite (.problem _) (.ok _))

theorem Value.atMost_ownFaults (a b : Value) : OwnFaults (a.atMost b) := by
  unfold atMost
  split
  · exact .ok _
  · exact .problem _

theorem TimeUnit.wholeToSeconds_ownFaults (unit : TimeUnit) (n : Int) :
    OwnFaults (unit.wholeToSeconds n) := by
  unfold wholeToSeconds
  split
  · exact .ok _
  · exact .problem _

/-- What keeps an amount of time from being counted in seconds is a problem of this library. -/
theorem TimeUnit.toSeconds_ownFaults (unit : TimeUnit) (amount : Value) :
    OwnFaults (unit.toSeconds amount) := by
  have whole (n : Int) : OwnFaults (Value.float <$> unit.wholeToSeconds n) :=
    (wholeToSeconds_ownFaults unit n).bind fun x => .ok (Value.float x)
  have room (v : Value) : OwnFaults (v.requireRoom unit.nanos) := .ite (.problem _) (.ok ())
  cases amount with
  | bool b => exact whole _
  | int n => exact whole n
  | float x => exact .ok _
  | duration micros =>
    exact (Value.ofMicros_ownFaults _).bind fun _ => Value.ofMicros_ownFaults _
  | text s => exact (room _).bind fun _ => .problem _
  | bytes data => exact (room _).bind fun _ => .problem _
  | list items => exact (room _).bind fun _ => .problem _
  | tuple items => exact (room _).bind fun _ => .problem _
  | null => exact .problem _
  | dict entries => exact .problem _
  | task => exact .problem _
  | phase p => exact .problem _

theorem Wait.ofTime_ownFaults (time : Value) (unit : TimeUnit) : OwnFaults (ofTime time unit) :=
  (TimeUnit.toSeconds_ownFaults unit time).bind fun _ =>
    (Value.atMost_ownFaults _ _).bind fun _ => .ite (.ok _) (.ok _)

namespace Lock

open Holding

variable {σ : Type} {path time v : Value} {unit : TimeUnit} {wait : Wait} {fault : Fault}
  {answer : Except Fault Value} {me : Thread} {s t : σ}

/-! ## Asking the service -/

/-- What a mutex takes an answer of its service for. -/
def heard : Except Fault Value → Except Fault Value
  | .ok v => .ok v
  | .error fault => if fault.kind = .waitExpired then .ok (.bool false) else .error fault

/-- An expired wait obtains nothing. -/
theorem isGrant_heard (answer : Except Fault Value) : isGrant (heard answer) = isGrant answer := by
  cases answer with
  | ok v => rfl
  | error fault =>
    by_cases h : fault.kind = .waitExpired
    · simp only [heard, h, if_true]
      rfl
    · simp only [heard, h, if_false]

theorem heard_eq_error_iff :
    heard answer = .error fault ↔ answer = .error fault ∧ fault.kind ≠ .waitExpired := by
  cases answer with
  | ok v => simp [heard]
  | error e =>
    by_cases h : e.kind = .waitExpired
    · simp only [heard, h, if_true, reduceCtorEq, false_iff, not_and, Except.error.injEq]
      rintro rfl hne
      exact hne h
    · simp only [heard, h, if_false, Except.error.injEq]
      refine ⟨fun he => ⟨he, he ▸ h⟩, And.left⟩

section Recipe

variable [Journal σ] {recipe : Recipe σ}

theorem Recipe.acquireWithin_of_noWait (h : Wait.ofTime time unit = .error fault) (path : Value)
    (s : σ) : recipe.acquireWithin path time unit s = (.error fault, s) := by
  obtain ⟨p, rfl⟩ := Wait.ofTime_ownFaults time unit fault h
  unfold Recipe.acquireWithin
  rw [h]
  exact Run.recover_of_not_caught rfl (decide_eq_false p.kind_ne_waitExpired)

/-- **Asking the service for a time.** -/
theorem Recipe.acquireWithin_of_answer (h : Wait.ofTime time unit = .ok wait) (path : Value)
    (ha : recipe.acquire wait s = (answer, t)) :
    ∃ t', recipe.acquireWithin path time unit s = (heard answer, t') ∧ Noted t t' := by
  unfold Recipe.acquireWithin
  rw [h, Run.ofExcept_ok_bind]
  cases answer with
  | ok v => exact ⟨t, Run.recover_of_ok ha, .refl t⟩
  | error fault =>
    by_cases hexpired : fault.kind = .waitExpired
    · rw [Run.recover_of_caught ha (decide_eq_true hexpired)]
      simp only [heard, hexpired, if_true]
      exact ⟨_, rfl, .record _ _⟩
    · rw [Run.recover_of_not_caught ha (decide_eq_false hexpired)]
      simp only [heard, hexpired, if_false]
      exact ⟨t, rfl, .refl t⟩

end Recipe

/-! ## The re-entrant mutex -/

namespace Reentrant

variable {lock : Reentrant σ}

/-- The owner obtains the mutex again without asking the service. -/
theorem acquire_again [Journal σ] (ho : (lock.ownership.read s).owner = some me) (time : Value)
    (unit : TimeUnit) :
    lock.acquire me time unit s = (.ok (.bool true), lock.ownership.write
      { lock.ownership.read s with holds := (lock.ownership.read s).holds + 1 } s) := by
  unfold Reentrant.acquire
  rw [Slot.get_bind_apply, if_pos ho]
  rfl

/-- Anyone else obtains the mutex exactly if the service grants the lock. -/
theorem acquire_asking [Journal σ] (ho : (lock.ownership.read s).owner ≠ some me)
    (ha : lock.recipe.acquireWithin lock.path time unit s = (answer, t)) :
    lock.acquire me time unit s
      = (answer, if isGrant answer then lock.ownership.write ⟨some me, 1⟩ t else t) := by
  unfold Reentrant.acquire
  rw [Slot.get_bind_apply, if_neg ho]
  cases answer with
  | error fault => exact Run.bind_error _ ha
  | ok obtained =>
    rw [Run.bind_ok _ ha]
    by_cases ht : obtained.isTruthy = true
    · simp only [isGrant, ht, if_true]
      rfl
    · simp only [isGrant, ht, Bool.false_eq_true, if_false]
      rfl

/-- A release that is not the last does not ask the service. -/
theorem release_again (ho : (lock.ownership.read s).owner = some me)
    (hn : 1 < (lock.ownership.read s).holds) :
    lock.release me s = (.ok .null, lock.ownership.write
      { lock.ownership.read s with holds := (lock.ownership.read s).holds - 1 } s) := by
  unfold Reentrant.release
  rw [Slot.get_bind_apply, if_neg (not_not_intro ho), if_pos hn]
  rfl

/-- The last one forgets the owner, and then asks the service to take the lock back. -/
theorem release_last (ho : (lock.ownership.read s).owner = some me)
    (hn : ¬ 1 < (lock.ownership.read s).holds)
    (hr : lock.recipe.release (lock.ownership.write .free s) = (answer, t)) :
    lock.release me s = (answer.map fun _ => .null, t) := by
  unfold Reentrant.release
  rw [Slot.get_bind_apply, if_neg (not_not_intro ho), if_neg hn, Slot.set_bind_apply]
  cases answer with
  | error fault => exact Run.bind_error _ hr
  | ok v => exact Run.bind_ok _ hr

end Reentrant

/-! ## The single-lease mutex -/

namespace Lease

variable {lock : Lease σ}

theorem acquire_of_unreadable [Journal σ] (h : lock.recipe.isGranted s = (.error fault, t))
    (time : Value) (unit : TimeUnit) : lock.acquire time unit s = (.error fault, t) :=
  Run.bind_error _ h

/-- While the lock is granted, nobody gets it and the service is not asked. -/
theorem acquire_of_granted [Journal σ] (h : lock.recipe.isGranted s = (.ok v, t))
    (hv : v.isTruthy = true) (time : Value) (unit : TimeUnit) :
    ∃ t', lock.acquire time unit s = (.ok (.bool false), t') ∧ Noted t t' := by
  unfold Lease.acquire
  rw [Run.bind_ok _ h, if_pos hv]
  exact ⟨_, rfl, .record _ _⟩

theorem acquire_asking [Journal σ] (h : lock.recipe.isGranted s = (.ok v, t))
    (hv : v.isTruthy = false) (time : Value) (unit : TimeUnit) :
    lock.acquire time unit s = lock.recipe.acquireWithin lock.path time unit t := by
  unfold Lease.acquire
  rw [Run.bind_ok _ h, if_neg (Bool.eq_false_iff.1 hv)]

theorem release_of_free (h : lock.recipe.isGranted s = (.ok v, t)) (hv : v.isTruthy = false) :
    lock.release s = (.error (Problem.leaseNotHeld lock.path).fault, t) := by
  unfold Lease.release
  rw [Run.bind_ok _ h, if_neg (Bool.eq_false_iff.1 hv)]
  rfl

theorem release_asking {u : σ} (h : lock.recipe.isGranted s = (.ok v, t)) (hv : v.isTruthy = true)
    (hr : lock.recipe.release t = (answer, u)) :
    lock.release s = (answer.map fun _ => .null, u) := by
  unfold Lease.release
  rw [Run.bind_ok _ h, if_pos hv]
  cases answer with
  | error fault => exact Run.bind_error _ hr
  | ok v => exact Run.bind_ok _ hr

theorem isHeld_of_readable (h : lock.recipe.isGranted s = (.ok v, t)) :
    lock.isHeld s = (.ok (.bool v.isTruthy), t) := Run.bind_ok _ h

end Lease

end Lock

end TimedLock
