import TimedLock.Proofs.Task.NamedParameter

/-!
# Binding a task

A bound task gets itself as its first argument, before those of the caller.

**Theorem (`bound_same_lock`).** Binding a task does not change the lock of a call. The call with the
task in front has the lock name of the call without it, provided that the arguments of the caller do
not begin with a task themselves, and both run their task under the mutex of that name. Where the
parameter cannot be looked up, both end with the same fault.

The two calls need not pick the same value: a named value that does not count as true stays what it
is in a call without positional arguments, and gives way to `null` once the task stands there. But
neither adds anything to the name. So the name is computed from the value that decides it
(`decisive`, `lockName_of_param`), which is the same with and without the task.
-/

namespace TimedLock.Task

namespace Arguments

/-- The arguments that a bound task gets: itself, and then those of the call. -/
def bound (args : Arguments) : Arguments := { args with positional := .task :: args.positional }

/-- The value that is passed by the name of a parameter. -/
def passed (args : Arguments) : Value → Value
  | .text name => .ofOption (args.named? name)
  | _ => .null

/-- The value that decides a lock name: the named one, or the first positional one where that does
not count as true. -/
def decisive (args : Arguments) (param : Value) : Value := (args.passed param).orElse args.first

variable {args : Arguments}

/-- The first argument after the task is the first one of the caller. -/
theorem first_bound (h : args.positional.head? ≠ some .task) : args.bound.first = args.first := by
  have hbound : args.bound.first = .ofOption args.positional.head? := rfl
  rw [hbound]
  cases hp : args.positional with
  | nil => simp [first, hp, Value.ofOption]
  | cons v rest =>
    have hv : v ≠ .task := by simpa [hp] using h
    cases v with
    | task => exact absurd rfl hv
    | _ => simp [first, hp, Value.ofOption]

theorem decisive_bound (h : args.positional.head? ≠ some .task) (param : Value) :
    args.bound.decisive param = args.decisive param := by
  have hpassed : args.bound.passed param = args.passed param := rfl
  rw [decisive, decisive, hpassed, first_bound h]

end Arguments

namespace Guard

variable {σ : Type} [Journal σ] {guard : Guard} {args : Arguments}

/-! ## The lock name of any call -/

/-- What a call picks adds to its lock name what the decisive value does. -/
theorem taskLockName_picked (name param : Value) (args : Arguments) :
    taskLockName name (if (args.passed param).isTruthy || args.positional.isEmpty
      then args.passed param else args.first) = taskLockName name (args.decisive param) := by
  rw [Arguments.decisive, Value.orElse]
  cases hv : (args.passed param).isTruthy with
  | true => rfl
  | false =>
    cases hp : args.positional with
    | nil =>
      -- one call picks a value that does not count as true, the other one nothing
      have hfirst : args.first = .null := by rw [Arguments.first, hp]
      simp only [hfirst, List.isEmpty_nil, Bool.or_true, if_true, Bool.false_eq_true, if_false]
      exact (taskLockName_eq_iff.2 hv).trans (taskLockName_eq_iff.2 rfl).symm
    | cons first rest => rfl

theorem lockName_of_no_value (hp : guard.param.isTruthy = false) (s : σ) :
    (guard.lockName args s).1 = .ok guard.name := by
  unfold lockName
  rw [if_neg (Bool.eq_false_iff.1 hp)]
  rfl

/-- The lock name of a call whose parameter cannot be looked up. -/
theorem lockName_of_changeable {kind : String} (hp : guard.param.isTruthy = true)
    (hk : guard.param.changeableKind? = some kind) (s : σ) :
    (guard.lockName args s).1 = .error (Problem.unhashable kind).fault := by
  have hrefused : paramValue args guard.param = .error (Problem.unhashable kind).fault := by
    unfold paramValue
    rw [hk]
  unfold lockName
  rw [if_pos hp, hrefused]
  rfl

/-- The lock name of a call whose parameter can be looked up. -/
theorem lockName_of_param (hp : guard.param.isTruthy = true)
    (hk : guard.param.changeableKind? = none) (s : σ) :
    (guard.lockName args s).1
      = .ok (taskLockName guard.name (args.decisive guard.param)) := by
  have hpicked : paramValue args guard.param
      = .ok (if (args.passed guard.param).isTruthy || args.positional.isEmpty
          then args.passed guard.param else args.first) := by
    unfold paramValue
    rw [hk]
    rfl
  rw [lockName_of_value hp hpicked, taskLockName_picked]

theorem lockName_bound (h : args.positional.head? ≠ some .task) (s s' : σ) :
    (guard.lockName args.bound s').1 = (guard.lockName args s).1 := by
  cases hp : guard.param.isTruthy with
  | false => rw [lockName_of_no_value hp, lockName_of_no_value hp]
  | true =>
    cases hk : guard.param.changeableKind? with
    | some kind => rw [lockName_of_changeable hp hk, lockName_of_changeable hp hk]
    | none =>
      rw [lockName_of_param hp hk, lockName_of_param hp hk, Arguments.decisive_bound h]

/-! ## The lock of a call -/

/-- A call is made under the mutex of a lock name, or ends at once with the fault that stands in its
place. -/
def Obeys (guard : Guard) (args : Arguments) (s : σ) : Except Fault Value → Prop
  | .ok name => ∀ env fallback task,
      ∃ t, guard.call env fallback args task s
          = (underMutex env name (guard.expire.orElse fallback) (task args)).withPrivate none t ∧
        Noted s t
  | .error fault => ∀ env fallback task,
      ∃ t, guard.call env fallback args task s = (.error fault, t) ∧ Noted s t

/-- Every call obeys its lock name. -/
theorem obeys_lockName (guard : Guard) (args : Arguments) (s : σ) :
    guard.Obeys args s (guard.lockName args s).1 := by
  obtain ⟨t, hname, hn⟩ := lockName_apply guard args s
  cases hl : (guard.lockName args s).1 with
  | ok name => exact call_of_lockName hl
  | error fault =>
    rw [hl] at hname
    exact fun _ _ _ => ⟨t, Run.bind_error _ hname, hn⟩

/-- **Binding a task does not change the lock of a call.** -/
theorem bound_same_lock (guard : Guard) (h : args.positional.head? ≠ some .task) (s s' : σ) :
    ∃ name, (guard.lockName args s).1 = name ∧ (guard.lockName args.bound s').1 = name ∧
      guard.Obeys args s name ∧ guard.Obeys args.bound s' name :=
  ⟨_, rfl, lockName_bound h s s', obeys_lockName guard args s,
    lockName_bound h s s' ▸ obeys_lockName guard args.bound s'⟩

/-- A refund of account zero picks another value once its task is bound, and keeps its lock. -/
theorem refund_bound_same_lock :
    let args : Arguments := ⟨[], [("account", .int 0)]⟩
    args.positional.head? ≠ some .task ∧ paramValue args refund.param = .ok (.int 0) ∧
      paramValue args.bound refund.param = .ok .null ∧
      (refund.lockName args ([] : List Entry)).1 = .ok (.text "refund") ∧
      (refund.lockName args.bound ([] : List Entry)).1 = .ok (.text "refund") := by
  intro args
  have hfree : args.positional.head? ≠ some .task := nofun
  have hplain : (refund.lockName args ([] : List Entry)).1 = .ok (.text "refund") := rfl
  obtain ⟨name, hname, hbound, -, -⟩ :=
    bound_same_lock refund hfree ([] : List Entry) ([] : List Entry)
  exact ⟨hfree, rfl, rfl, hplain, hbound.trans (hname.symm.trans hplain)⟩

end Guard

end TimedLock.Task
