import TimedLock.Proofs.Task.Transparency

/-!
# Telling the faults of a task by a flag

A guarded call can also be written with the task itself as the work of the locked call. The handler
then gets the faults of the task as well, and those of locks that the task takes look like those of
the lock of the call. What tells them apart is a flag that is set when the task starts: from then on
every fault is passed on.

**Theorem (`call_eq_flagged`).** That comes to the same as passing what the task ended with through
the locked call as a result.

The two locked calls use the same mutex, so they agree up to where the mutex was obtained or not
(`flaggedHandle_agree`), and after the task has run they agree again.
-/

namespace TimedLock.Task.Guard

open Holding Lock

variable {σ : Type}

/-- The world of a call with a flag: everything else and the token of its mutex, and whether the task
was started. -/
abbrev FlagWorld (σ : Type) := (σ × Option String) × Bool

/-- The token of the mutex. -/
def flagToken : Slot (FlagWorld σ) (Option String) where
  read w := w.1.2
  write token w := ((w.1.1, token), w.2)

/-- The work of a call: the flag is set, and the task starts. -/
def starting (work : Run σ Value) : Run (FlagWorld σ) Value := do
  .change fun w => (w.1, true)
  work.inShared.inShared

variable [Journal σ]

/-- The mutex of a call. -/
def flaggedHandle (env : Surroundings σ) (name expire : Value) : Handle (FlagWorld σ) :=
  Cached.handle env.shared.shared ⟨name, expire, defaultPollInterval, flagToken⟩

/-- What a call does about a fault of its locked call. -/
def onFlaggedFault (name : Value) : Handler (FlagWorld σ) Value := fun phase fault => do
  let started ← .look Prod.snd
  if phase = .operation || started then .fail fault else skip name fault

/-- Runs work under a mutex, and tells its faults by the flag. -/
def flagged (env : Surroundings σ) (name expire : Value) (work : Run σ Value) :
    Run (FlagWorld σ) Value :=
  withLock (some (flaggedHandle env name expire)) (.int 0) none (starting work)
    (some (onFlaggedFault name))

/-! ## The same mutex -/

/-- The world with a flag. -/
def Flagged (flag : Bool) (v : FlagWorld σ) (w : σ × Option String) : Prop := v = (w, flag)

theorem flagged_journaled (flag : Bool) : Run.Journaled (Flagged (σ := σ) flag) := by
  rintro entry _ w rfl
  rfl

omit [Journal σ] in
theorem inShared_flagged {α : Type} (flag : Bool) (x : Run (σ × Option String) α) :
    Run.Agree (Flagged flag) x.inShared x := by
  rintro _ w rfl
  exact ⟨rfl, rfl⟩

theorem flaggedHandle_agree (flag : Bool) (env : Surroundings σ) (name expire : Value) :
    Handle.Agree (Flagged flag) (flaggedHandle env name expire)
      ((callMutex name expire).handle env.shared) := by
  have henv : Surroundings.Agree (Flagged (σ := σ) flag) env.shared.shared env.shared := {
    add := fun _ _ _ => inShared_flagged flag _
    get := fun _ => inShared_flagged flag _
    delete := fun _ => inShared_flagged flag _
    drawToken := inShared_flagged flag _
    now := inShared_flagged flag _
    sleep := fun _ => inShared_flagged flag _
    patience := rfl }
  have htoken : Slot.Agree (Flagged (σ := σ) flag) flagToken callPart.inPrivate := by
    constructor
    · rintro _ w rfl
      rfl
    · rintro token _ w rfl
      rfl
  exact Cached.Agree.handle (flagged_journaled flag) henv ⟨rfl, rfl, rfl, htoken⟩

/-! ## The handlers -/

/-- Before the task was started, the handlers do the same. -/
theorem onFlaggedFault_of_unstarted (name : Value) (phase : Phase) (fault : Fault)
    (w : σ × Option String) :
    ∃ outcome v, onFault name phase fault w = (outcome, v) ∧
      onFlaggedFault name phase fault (w, false) = (outcome >>= id, (v, false)) := by
  cases phase with
  | operation => exact ⟨_, w, rfl, rfl⟩
  | acquisition =>
    obtain ⟨hout, hworld⟩ := skip_agree (flagged_journaled false) name fault (w, false) w rfl
    rcases hs : skip name fault w with ⟨outcome, v⟩
    rw [hs] at hout hworld
    have hflagged : onFlaggedFault name .acquisition fault (w, false) = (outcome, (v, false)) :=
      Prod.ext hout hworld
    refine ⟨_, v, onFault_of_skip hs, ?_⟩
    rw [hflagged]
    cases outcome <;> rfl

/-- Afterwards, every fault is passed on. -/
theorem onFlaggedFault_of_started (name : Value) (phase : Phase) (fault : Fault)
    (w : σ × Option String) :
    onFlaggedFault name phase fault (w, true) = (.error fault, (w, true)) := by
  cases phase <;> rfl

/-! ## The same call -/

variable {env : Surroundings σ} {name expire : Value} {work : Run σ Value} {w x : σ × Option String}
  {fault : Fault} {v : FlagWorld σ}

theorem flagged_of_ok {a : Value}
    (h : hold (some (flaggedHandle env name expire)) (.int 0) (some .seconds) (starting work)
      (w, false) = (.ok a, v)) : flagged env name expire work (w, false) = (.ok a, v) :=
  (callLocked_some _ _ callTimeout).trans (Run.recover_of_ok h)

theorem flagged_of_ordinary
    (h : hold (some (flaggedHandle env name expire)) (.int 0) (some .seconds) (starting work)
      (w, false) = (.error fault, v)) (hf : fault.isOrdinary = true) :
    flagged env name expire work (w, false) = onFlaggedFault name (phaseOf fault) fault v :=
  callLocked_of_ordinary callTimeout h hf _

theorem flagged_of_stop
    (h : hold (some (flaggedHandle env name expire)) (.int 0) (some .seconds) (starting work)
      (w, false) = (.error fault, v)) (hf : fault.isOrdinary = false) :
    flagged env name expire work (w, false) = (.error fault, v) :=
  (callLocked_some _ _ callTimeout).trans (Run.recover_of_not_caught h hf)

/-- Where the mutex is not obtained, the call does the same with the flag. -/
theorem flagged_of_refusal (work : Run σ Value)
    (h : acquireWithin ((callMutex name expire).handle env.shared) (.int 0) .seconds w
      = (.error fault, x)) :
    ∃ outcome u, underMutex env name expire work w = (outcome, u) ∧
      flagged env name expire work (w, false) = (outcome, (u, false)) := by
  obtain ⟨hout, hworld⟩ := acquireWithin_agree (flagged_journaled false)
    (flaggedHandle_agree false env name expire) (.int 0) .seconds (w, false) w rfl
  rw [h] at hout hworld
  have hhold : hold (some ((callMutex name expire).handle env.shared)) (.int 0) (some .seconds)
      work.inShared.attempt w = (.error fault, x) :=
    (hold_apply _ (Timeout.resolve_resolve callTimeout)).trans (Run.bind_error _ h)
  have hflagged : hold (some (flaggedHandle env name expire)) (.int 0) (some .seconds)
      (starting work) (w, false) = (.error fault, (x, false)) :=
    (hold_apply _ (Timeout.resolve_resolve callTimeout)).trans
      (Run.bind_error _ (Prod.ext hout hworld))
  by_cases hf : fault.isOrdinary = true
  · obtain ⟨outcome, u, hu, hflag⟩ := onFlaggedFault_of_unstarted name (phaseOf fault) fault x
    exact ⟨_, u, underMutex_of_hold_ordinary hhold hf hu,
      (flagged_of_ordinary hflagged hf).trans hflag⟩
  · have hstop := Bool.eq_false_iff.2 hf
    exact ⟨_, x, underMutex_of_hold_stop hhold hstop, flagged_of_stop hflagged hstop⟩

/-- Where it is obtained, too, but for the flag. -/
theorem flagged_of_grant (work : Run σ Value)
    (h : acquireWithin ((callMutex name expire).handle env.shared) (.int 0) .seconds w
      = (.ok (), x)) :
    ∃ outcome u, underMutex env name expire work w = (outcome, u) ∧
      flagged env name expire work (w, false) = (outcome, (u, true)) := by
  obtain ⟨hout, hworld⟩ := acquireWithin_agree (flagged_journaled false)
    (flaggedHandle_agree false env name expire) (.int 0) .seconds (w, false) w rfl
  rw [h] at hout hworld
  rcases hw : work x.1 with ⟨outcome, s⟩
  have hwork : work.inShared.attempt x = (.ok outcome, s, x.2) := by
    rw [Run.attempt_apply, Run.inShared_apply, hw]
  have hstarting : starting work (x, false) = (outcome, ((s, x.2), true)) :=
    Run.inShared_of (Run.inShared_of hw x.2) true
  obtain ⟨hback, hleft⟩ := releaseHandle_agree (flagged_journaled true)
    (flaggedHandle_agree true env name expire) ((s, x.2), true) (s, x.2) rfl
  have hhold := (hold_apply work.inShared.attempt (Timeout.resolve_resolve callTimeout)).trans
    (Run.bind_ok _ h)
  have hflagged := (hold_apply (starting work) (Timeout.resolve_resolve callTimeout)).trans
    (Run.bind_ok _ (Prod.ext hout hworld))
  rcases hr : releaseHandle ((callMutex name expire).handle env.shared) (s, x.2) with ⟨loud | _, y⟩
  · rw [hr] at hback hleft
    have hstop := isOrdinary_of_releaseHandle hr
    have hended := hhold.trans (Run.thenAlways_of_error hwork hr)
    exact ⟨_, y, underMutex_of_hold_stop hended hstop, flagged_of_stop
      (hflagged.trans (Run.thenAlways_of_error hstarting (Prod.ext hback hleft))) hstop⟩
  · rw [hr] at hback hleft
    have hcall := underMutex_of_hold_ok (hhold.trans (Run.thenAlways_of_ok hwork hr))
    have hended := hflagged.trans (Run.thenAlways_of_ok hstarting (Prod.ext hback hleft))
    refine ⟨_, y, hcall, ?_⟩
    cases outcome with
    | ok a => exact flagged_of_ok hended
    | error fault =>
      by_cases hf : fault.isOrdinary = true
      · exact (flagged_of_ordinary hended hf).trans (onFlaggedFault_of_started name _ fault y)
      · exact flagged_of_stop hended (Bool.eq_false_iff.2 hf)

/-- **The flag comes to the same.** -/
theorem underMutex_eq_flagged (env : Surroundings σ) (name expire : Value) (work : Run σ Value) :
    underMutex env name expire work = (flagged env name expire work).withPrivate false := by
  ext w : 1
  rw [Run.withPrivate_apply]
  rcases h : acquireWithin ((callMutex name expire).handle env.shared) (.int 0) .seconds w
    with ⟨_ | _, x⟩
  · obtain ⟨outcome, v, hv, hflagged⟩ := flagged_of_refusal work h
    rw [hv, hflagged]
  · obtain ⟨outcome, v, hv, hflagged⟩ := flagged_of_grant work h
    rw [hv, hflagged]

/-- **Guarded calls with a flag.** -/
theorem call_eq_flagged (guard : Guard) (env : Surroundings σ) (fallback : Value) (args : Arguments)
    (task : Arguments → Run σ Value) :
    guard.call env fallback args task = (do
      let name ← guard.lockName args
      ((flagged env name (guard.expire.orElse fallback) (task args)).withPrivate
        false).withPrivate none) := by
  unfold call
  simp only [underMutex_eq_flagged]

end TimedLock.Task.Guard
