import TimedLock.Proofs.Agreement
import TimedLock.Proofs.Holding.Discipline
import TimedLock.Proofs.Holding.HandlerPhase

/-!
# Calls with handlers simulate those without

**Theorem (`simulates_plain`).** A locked call with a handler does what the same call does without
one, and then, if that ended with an ordinary fault after the timeout was accepted, what the handler
does with that fault. So a call with a handler is a call without one and a function of how it ended
(`followedBy`): the two run through the same worlds, journal included, up to where the call without
a handler is over.

The order of things is read off a ledger (`recorded`). What is written for the call without a handler
is nothing, or that the lock was refused, or that it was obtained, the work done and the lock given
back; with a handler the same is written, and after it, if at all, one invocation.
-/

namespace TimedLock.Holding.Call

variable {σ : Type} [Journal σ]

/-! ## What is to be shown -/

/-- The call without a handler. -/
def plain (c : Call σ) : Run σ Value := lockedCall c.keeps c.lock c.timeout c.unit c.work none

/-- Whether the timeout of the call is accepted. -/
def accepted (c : Call σ) : Bool := (Timeout.resolve c.timeout c.unit).isOk

/-- The fault that a handler gets to see where the call without one ended so. -/
def handled? (c : Call σ) : Except Fault Value → Option Fault
  | .ok _ => none
  | .error fault => if c.accepted && fault.isOrdinary then some fault else none

/-- Goes on with the handler where the call without one ended. -/
def followedBy (c : Call σ) (handler : Handler σ Value) (ended : Except Fault Value × σ) :
    Except Fault Value × σ :=
  match c.handled? ended.1 with
  | none => ended
  | some fault => c.afterHandler (handler (phaseOf fault) fault) ended.2

/-- The call with everything that it does written down, as call number `0`. -/
def recorded (c : Call σ) : Call (σ × Ledger) where
  keeps := c.keeps
  lock := watched c.lock 0
  timeout := c.timeout
  unit := c.unit
  work := framedWork 0 c.work.inShared

/-- A handler whose invocation is written down. -/
def recordedHandler (handler : Handler σ Value) : Handler (σ × Ledger) Value :=
  framedHandler 0 fun phase fault => (handler phase fault).inShared

/-- What is written about the handler. -/
def reaction : Option Fault → List Deed
  | none => []
  | some fault => [.handlerBegan 0 (phaseOf fault) fault, .handlerEnded 0]

/-! ## One call after the other -/

theorem plain_apply (c : Call σ) (s : σ) :
    c.plain s = c.afterHandler (callLocked (some c.lock) c.timeout c.unit c.work none) s :=
  congrFun (c.lockedCall_eq none) s

variable {c : Call σ} {handler : Handler σ Value} {outcome : Except Fault Value} {fault : Fault}
  {s t : σ}

omit [Journal σ] in
theorem followedBy_of_none (h : c.handled? outcome = none) :
    c.followedBy handler (outcome, t) = (outcome, t) := by
  unfold followedBy
  rw [h]

omit [Journal σ] in
theorem followedBy_of_some (h : c.handled? outcome = some fault) :
    c.followedBy handler (outcome, t) = c.afterHandler (handler (phaseOf fault) fault) t := by
  unfold followedBy
  rw [h]

omit [Journal σ] in
theorem afterHandler_of_ok (c : Call σ) {x : Run σ Value} {a : Value}
    (h : x s = (.ok a, t)) : c.afterHandler x s = (.ok (if c.keeps then a else .null), t) := by
  unfold afterHandler
  cases c.keeps with
  | true => exact h
  | false => exact Run.bind_ok _ h

/-- **The call with a handler** is the call without one, followed by the handler. -/
theorem run_eq_followedBy (c : Call σ) (handler : Handler σ Value) (s : σ) :
    c.run handler s = c.followedBy handler (c.plain s) := by
  rw [run_apply, plain_apply]
  cases hres : Timeout.resolve c.timeout c.unit with
  | error rejection =>
    rw [afterHandler_of_error (callLocked_of_rejection c.work _ hres),
      afterHandler_of_error (callLocked_of_rejection c.work _ hres), followedBy_of_none]
    simp [handled?, accepted, hres, Except.isOk, Except.toBool]
  | ok resolved =>
    have haccepted : c.accepted = true := by
      unfold accepted
      rw [hres]
      rfl
    rcases hh : hold (some c.lock) resolved.1 (some resolved.2) c.work s with ⟨outcome, t⟩
    have hplain := (callLocked_none c.work hres).trans hh
    cases outcome with
    | ok a =>
      have hrun : callLocked (some c.lock) c.timeout c.unit c.work (some handler) s = (.ok a, t) :=
        (callLocked_some c.work handler hres).trans (Run.recover_of_ok hh)
      rw [c.afterHandler_of_ok hrun, c.afterHandler_of_ok hplain, followedBy_of_none rfl]
    | error fault =>
      rw [afterHandler_of_error hplain]
      by_cases hf : fault.isOrdinary = true
      · have hsome : c.handled? (.error fault) = some fault := by simp [handled?, haccepted, hf]
        rw [followedBy_of_some hsome]
        exact afterHandler_congr (callLocked_of_ordinary hres hh hf handler)
      · have hrun : callLocked (some c.lock) c.timeout c.unit c.work (some handler) s
            = (.error fault, t) :=
          (callLocked_some c.work handler hres).trans
            (Run.recover_of_not_caught hh (Bool.eq_false_iff.2 hf))
        rw [afterHandler_of_error hrun, followedBy_of_none (by simp [handled?, hf])]

/-! ## The ledger -/

omit [Journal σ] in
/-- A lock answers the same whether its answers are written down or not. -/
theorem watched_agree (lock : Handle σ) (call : Nat) :
    (watched lock call).Agree Run.Shares lock where
  acquire time unit := by
    rintro ⟨_, ledger⟩ s rfl
    exact ⟨rfl, rfl⟩
  release := by
    rintro ⟨_, ledger⟩ s rfl
    exact ⟨rfl, rfl⟩
  isHeld := .inShared _
  describe := by
    rintro ⟨_, ledger⟩ s rfl
    rfl

omit [Journal σ] in
theorem framedWork_agree (call : Nat) (work : Run σ Value) :
    Run.Agree Run.Shares (framedWork call work.inShared) work := by
  rintro ⟨_, ledger⟩ s rfl
  exact ⟨rfl, rfl⟩

/-- Writing everything down changes neither how the call ends nor the world it leaves behind. -/
theorem recorded_plain_agree (c : Call σ) : Run.Agree Run.Shares c.recorded.plain c.plain := by
  have hcall := callLocked_none_agree Run.Shares.journaled (watched_agree c.lock 0) c.timeout c.unit
    (framedWork_agree 0 c.work)
  rw [show c.recorded.plain = c.recorded.afterHandler _ from c.recorded.lockedCall_eq none,
    show c.plain = c.afterHandler _ from c.lockedCall_eq none]
  unfold afterHandler
  cases hk : c.keeps with
  | true => simpa [recorded, hk] using hcall
  | false => simpa [recorded, hk] using hcall.bind fun _ => .pure _

/-- What a call that is accepted writes down before its handler. -/
theorem hold_core {timeout time : Value} {unit : Option TimeUnit} {u : TimeUnit} (lock : Handle σ)
    (call : Nat) (hres : Timeout.resolve timeout unit = .ok (time, u)) (work : Run σ Value)
    (w : σ × Ledger) :
    ∃ core, Orderly.Core call core ∧
      (hold (some (watched lock call)) timeout unit (framedWork call work.inShared) w).2.2
        = { w.2 with deeds := w.2.deeds ++ core } := by
  rcases hans : lock.acquire time u w.1 with ⟨answer, s⟩
  have ha : (watched lock call).acquire time u w
      = (answer, wrote (.asked call answer) (s, w.2)) := by
    rw [watched_acquire_apply, hans]
  cases hg : isGrant answer with
  | false =>
    obtain ⟨t, ht, hn⟩ := hold_of_refusal (α := Value) hres ha hg
    rw [ht (framedWork call work.inShared), hn.private_eq]
    exact ⟨_, .refused hg, rfl⟩
  | true =>
    have hw : framedWork call work.inShared (wrote (.asked call answer) (s, w.2))
        = ((work s).1, wrote (.workEnded call)
            ((work s).2, (wrote (.workBegan call) (wrote (.asked call answer) (s, w.2))).2)) := rfl
    obtain ⟨t, ht, hn⟩ := hold_of_grant hres ha hg hw (watched_release_apply lock call _)
    rw [ht, hn.private_eq]
    have hcore : Orderly.Core call [.asked call answer, .workBegan call, .workEnded call,
        .gaveBack call (lock.release (work s).2).1] := .granted hg
    exact ⟨_, hcore, by simp [wrote]⟩

/-- **What the call without a handler writes down**: nothing where the timeout is rejected, and
otherwise what its lock answered, with the work and the release where it was obtained. -/
theorem recorded_plain (c : Call σ) (s : σ) :
    ∃ deeds, (if c.accepted then Orderly.Core 0 deeds else deeds = []) ∧
      c.recorded.plain (s, .blank) = ((c.plain s).1, (c.plain s).2, ⟨0, deeds⟩) := by
  obtain ⟨hout, hworld⟩ := recorded_plain_agree c (s, .blank) s rfl
  have hledger : ∃ deeds, (if c.accepted then Orderly.Core 0 deeds else deeds = []) ∧
      (c.recorded.plain (s, .blank)).2.2 = ⟨0, deeds⟩ := by
    have hcall : (c.recorded.plain (s, .blank)).2
        = (callLocked (some (watched c.lock 0)) c.timeout c.unit (framedWork 0 c.work.inShared) none
            (s, .blank)).2 := lockedCall_snd ..
    rw [hcall]
    cases hres : Timeout.resolve c.timeout c.unit with
    | error rejection =>
      rw [callLocked_of_rejection _ _ hres]
      exact ⟨[], by simp [accepted, hres, Except.isOk, Except.toBool], rfl⟩
    | ok resolved =>
      rw [callLocked_none _ hres]
      obtain ⟨core, hcore, hl⟩ :=
        hold_core c.lock 0 (Timeout.resolve_resolve hres) c.work (s, .blank)
      exact ⟨core, by simpa [accepted, hres, Except.isOk, Except.toBool] using hcore, hl⟩
  obtain ⟨deeds, hdeeds, hl⟩ := hledger
  exact ⟨deeds, hdeeds, Prod.ext hout (Prod.ext hworld hl)⟩

omit [Journal σ] in
/-- What an invocation of the handler writes down. -/
theorem recorded_afterHandler (c : Call σ) (handler : Handler σ Value) (fault : Fault) (s : σ)
    (ledger : Ledger) :
    c.recorded.afterHandler (recordedHandler handler (phaseOf fault) fault) (s, ledger)
      = ((c.afterHandler (handler (phaseOf fault) fault) s).1,
          (c.afterHandler (handler (phaseOf fault) fault) s).2,
          { ledger with deeds := ledger.deeds ++ reaction (some fault) }) := by
  rcases hh : handler (phaseOf fault) fault s with ⟨outcome, t⟩
  have hrecorded : recordedHandler handler (phaseOf fault) fault (s, ledger)
      = (outcome, t, { ledger with deeds := ledger.deeds ++ reaction (some fault) }) := by
    have hframed : recordedHandler handler (phaseOf fault) fault (s, ledger)
        = ((handler (phaseOf fault) fault s).1,
            wrote (.handlerEnded 0) ((handler (phaseOf fault) fault s).2,
              (wrote (.handlerBegan 0 (phaseOf fault) fault) (s, ledger)).2)) := rfl
    rw [hframed, hh]
    simp [wrote, reaction]
  cases outcome with
  | ok a => rw [c.afterHandler_of_ok hh, c.recorded.afterHandler_of_ok hrecorded]; rfl
  | error e => rw [afterHandler_of_error hh, afterHandler_of_error hrecorded]

/-- **A call with a handler simulates the call without one.** It does what that call does, and after
it what the handler does with the fault, if that ended with a fault to handle. The ledger has the
same: first all that the call without a handler writes down, which ends with the release if the lock
was obtained, then the one invocation. -/
theorem simulates_plain (c : Call σ) (handler : Handler σ Value) (s : σ) :
    c.run handler s = c.followedBy handler (c.plain s) ∧
      ∃ deeds, (if c.accepted then Orderly.Core 0 deeds else deeds = []) ∧
        c.recorded.plain (s, .blank) = ((c.plain s).1, (c.plain s).2, ⟨0, deeds⟩) ∧
        c.recorded.run (recordedHandler handler) (s, .blank)
          = ((c.run handler s).1, (c.run handler s).2,
              ⟨0, deeds ++ reaction (c.handled? (c.plain s).1)⟩) := by
  refine ⟨run_eq_followedBy c handler s, ?_⟩
  obtain ⟨deeds, hdeeds, hplain⟩ := recorded_plain c s
  refine ⟨deeds, hdeeds, hplain, ?_⟩
  rw [run_eq_followedBy, hplain, run_eq_followedBy]
  rcases c.plain s with ⟨outcome, t⟩
  have hsame : c.recorded.handled? outcome = c.handled? outcome := rfl
  cases hf : c.handled? outcome with
  | none =>
    rw [followedBy_of_none hf, followedBy_of_none (hsame.trans hf)]
    simp [reaction]
  | some fault =>
    rw [followedBy_of_some hf, followedBy_of_some (hsame.trans hf), recorded_afterHandler]

end TimedLock.Holding.Call
