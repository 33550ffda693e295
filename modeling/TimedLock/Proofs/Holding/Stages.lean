import TimedLock.Holding
import TimedLock.Proofs.Run

/-!
# The stages of a locked call

What each way of using a lock comes down to, given how the lock answers.

* A timeout that is not accepted ends the call at once (`hold_of_rejection`).
* A lock that is not obtained ends it with a fault that says so (`hold_of_refusal`,
  `refusal_isAcquisition`).
* A lock that is obtained is given back once, in the world that the work leaves behind
  (`hold_of_grant`).

The handler of a call comes after all that, and sees ordinary faults only
(`callLocked_cases`).
-/

namespace TimedLock.Holding

/-! ## Answers of a lock -/

/-- Whether the answer to an acquisition says that the lock was obtained. -/
def isGrant : Except Fault Value → Bool
  | .ok v => v.isTruthy
  | .error _ => false

/-- The fault that an acquisition ends with where the lock was not obtained. -/
def refusal (time : Value) (unit : TimeUnit) : Except Fault Value → Fault
  | .ok _ => (Problem.acquireTimedOut time unit).fault
  | .error fault => if fault.isOrdinary then Problem.acquireFailed.causedBy fault else fault

/-- Whether the answer to a release is a fault that no quiet release swallows. -/
def isLoud : Except Fault Value → Bool
  | .ok _ => false
  | .error fault => !fault.isOrdinary

/-- What a call ends with, given how its work and the release after it ended. -/
def afterRelease {α : Type} (outcome : Except Fault α) : Except Fault Value → Except Fault α
  | .ok _ => outcome
  | .error fault => if fault.isOrdinary then outcome else .error fault

/-- A fault that says that the lock was not obtained is ordinary only if it is an acquisition
fault. -/
theorem refusal_isAcquisition (time : Value) (unit : TimeUnit) (answer : Except Fault Value)
    (h : (refusal time unit answer).isOrdinary = true) :
    (refusal time unit answer).isAcquisition = true := by
  cases answer with
  | ok v => rfl
  | error fault =>
    by_cases hf : fault.isOrdinary = true
    · simp only [refusal, hf, if_true]
      rfl
    · simp only [refusal, hf, Bool.false_eq_true, if_false] at h

theorem afterRelease_of_quiet {α : Type} (outcome : Except Fault α) {back : Except Fault Value}
    (h : isLoud back = false) : afterRelease outcome back = outcome := by
  cases back with
  | ok v => rfl
  | error fault =>
    have hf : fault.isOrdinary = true := by simpa [isLoud] using h
    simp only [afterRelease, hf, if_true]

theorem afterRelease_of_loud {α : Type} (outcome : Except Fault α) {back : Except Fault Value}
    (h : isLoud back = true) :
    ∃ fault, afterRelease outcome back = .error fault ∧ fault.isOrdinary = false := by
  cases back with
  | ok v => cases h
  | error fault =>
    have hf : fault.isOrdinary = false := by simpa [isLoud] using h
    exact ⟨fault, by simp [afterRelease, hf], hf⟩

variable {σ α : Type} [Journal σ] {lock : Handle σ} {timeout time : Value}
  {unit : Option TimeUnit} {u : TimeUnit} {s t v : σ} {answer back : Except Fault Value}

/-! ## Taking and giving back -/

theorem acquireWithin_of_grant (h : lock.acquire time u s = (answer, t))
    (hg : isGrant answer = true) : acquireWithin lock time u s = (.ok (), t) := by
  unfold acquireWithin
  rw [Run.attempt_bind_apply, h]
  cases answer with
  | ok obtained =>
    have ht : obtained.isTruthy = true := hg
    simp only [ht, if_true]
    rfl
  | error fault => cases hg

theorem acquireWithin_of_refusal (h : lock.acquire time u s = (answer, t))
    (hg : isGrant answer = false) :
    ∃ t', acquireWithin lock time u s = (.error (refusal time u answer), t') ∧ Noted t t' := by
  unfold acquireWithin
  rw [Run.attempt_bind_apply, h]
  cases answer with
  | ok obtained =>
    have ht : obtained.isTruthy = false := hg
    simp only [ht, Bool.false_eq_true, if_false]
    exact ⟨_, rfl, .record _ _⟩
  | error fault => exact ⟨t, rfl, .refl t⟩

theorem releaseHandle_apply (h : lock.release s = (back, t)) :
    ∃ t', releaseHandle lock s = (afterRelease (.ok ()) back, t') ∧ Noted t t' := by
  unfold releaseHandle
  rw [Run.attempt_bind_apply, h]
  cases back with
  | ok v => exact ⟨t, rfl, .refl t⟩
  | error fault =>
    unfold afterRelease
    by_cases hf : fault.isOrdinary = true
    · simp only [hf, if_true]
      exact ⟨_, rfl, .record _ _⟩
    · simp only [hf, Bool.false_eq_true, if_false]
      exact ⟨t, rfl, .refl t⟩

/-- A quiet release ends with a fault only if that is not ordinary. -/
theorem isOrdinary_of_releaseHandle {fault : Fault} (h : releaseHandle lock s = (.error fault, t)) :
    fault.isOrdinary = false := by
  rcases hr : lock.release s with ⟨back, u⟩
  obtain ⟨u', hu, -⟩ := releaseHandle_apply hr
  have hback : afterRelease (.ok ()) back = .error fault := congrArg Prod.fst (hu.symm.trans h)
  cases hl : isLoud back with
  | false =>
    rw [afterRelease_of_quiet _ hl] at hback
    cases hback
  | true =>
    obtain ⟨loud, hloud, hf⟩ := afterRelease_of_loud (.ok ()) hl
    rw [hloud] at hback
    cases hback
    exact hf

/-! ## Work under a lock -/

theorem hold_of_rejection {fault : Fault} (work : Run σ α)
    (h : Timeout.resolve timeout unit = .error fault) :
    hold (some lock) timeout unit work s = (.error fault, s) := by
  unfold hold acquire
  rw [h]
  rfl

/-- Where the timeout is accepted, a call is an acquisition and what comes after it. -/
theorem hold_apply (work : Run σ α) (h : Timeout.resolve timeout unit = .ok (time, u)) :
    hold (some lock) timeout unit work s
      = (acquireWithin lock time u >>= fun _ => work.thenAlways (releaseHandle lock)) s := by
  unfold hold acquire
  rw [h]
  rfl

/-- Where the lock is not obtained, it makes no difference what the work is. -/
theorem hold_of_refusal (h : Timeout.resolve timeout unit = .ok (time, u))
    (ha : lock.acquire time u s = (answer, t)) (hg : isGrant answer = false) :
    ∃ t', (∀ work : Run σ α,
        hold (some lock) timeout unit work s = (.error (refusal time u answer), t')) ∧
      Noted t t' := by
  obtain ⟨t', hw, ht⟩ := acquireWithin_of_refusal ha hg
  exact ⟨t', fun work => by rw [hold_apply work h, Run.bind_error _ hw], ht⟩

theorem hold_of_grant {work : Run σ α} {outcome : Except Fault α} {w : σ}
    (h : Timeout.resolve timeout unit = .ok (time, u))
    (ha : lock.acquire time u s = (answer, t)) (hg : isGrant answer = true)
    (hw : work t = (outcome, v)) (hr : lock.release v = (back, w)) :
    ∃ w', hold (some lock) timeout unit work s = (afterRelease outcome back, w') ∧
      Noted w w' := by
  obtain ⟨w', hq, hn⟩ := releaseHandle_apply hr
  refine ⟨w', ?_, hn⟩
  rw [hold_apply work h, Run.bind_ok _ (acquireWithin_of_grant ha hg)]
  cases back with
  | ok _ => exact Run.thenAlways_of_ok hw hq
  | error fault =>
    by_cases hf : fault.isOrdinary = true
    · simp only [afterRelease, hf, if_true] at hq ⊢
      exact Run.thenAlways_of_ok hw hq
    · simp only [afterRelease, hf, Bool.false_eq_true, if_false] at hq ⊢
      exact Run.thenAlways_of_error hw hq

/-! ## Handlers -/

theorem callLocked_of_rejection {fault : Fault} (work : Run σ α) (handler : Option (Handler σ α))
    (h : Timeout.resolve timeout unit = .error fault) :
    callLocked (some lock) timeout unit work handler s = (.error fault, s) := by
  unfold callLocked
  rw [h]
  rfl

/-- Without a handler, a locked call is the work under the lock. -/
theorem callLocked_none (work : Run σ α) (h : Timeout.resolve timeout unit = .ok (time, u)) :
    callLocked (some lock) timeout unit work none s
      = hold (some lock) time (some u) work s := by
  unfold callLocked
  rw [h]
  rfl

/-- With a handler, it is the work under the lock with the handler after it. -/
theorem callLocked_some (work : Run σ α) (handler : Handler σ α)
    (h : Timeout.resolve timeout unit = .ok (time, u)) :
    callLocked (some lock) timeout unit work (some handler) s
      = (hold (some lock) time (some u) work).recover Fault.isOrdinary
          (fun fault => handler (phaseOf fault) fault) s := by
  unfold callLocked
  rw [h]
  rfl

/-- An ordinary fault of the work under the lock goes to the handler, with the phase that its kind
speaks of. -/
theorem callLocked_of_ordinary {work : Run σ α} {fault : Fault}
    (h : Timeout.resolve timeout unit = .ok (time, u))
    (hh : hold (some lock) time (some u) work s = (.error fault, t))
    (hf : fault.isOrdinary = true) (handler : Handler σ α) :
    callLocked (some lock) timeout unit work (some handler) s
      = handler (phaseOf fault) fault t := by
  rw [callLocked_some work handler h, Run.recover_of_caught hh hf]

/-- **A call with a handler** either passes an ordinary fault of the work under the lock to the
handler, or ends as that work did, whatever the handler. -/
theorem callLocked_cases {work : Run σ α} {outcome : Except Fault α}
    (h : Timeout.resolve timeout unit = .ok (time, u))
    (hh : hold (some lock) time (some u) work s = (outcome, t)) :
    (∃ fault, outcome = .error fault ∧ fault.isOrdinary = true ∧
      ∀ handler, callLocked (some lock) timeout unit work (some handler) s
        = handler (phaseOf fault) fault t) ∨
    ∀ handler, callLocked (some lock) timeout unit work (some handler) s = (outcome, t) := by
  cases outcome with
  | ok a =>
    refine .inr fun handler => ?_
    rw [callLocked_some work handler h]
    exact Run.recover_of_ok hh
  | error fault =>
    by_cases hf : fault.isOrdinary = true
    · exact .inl ⟨fault, rfl, hf, callLocked_of_ordinary h hh hf⟩
    · refine .inr fun handler => ?_
      rw [callLocked_some work handler h]
      exact Run.recover_of_not_caught hh (Bool.eq_false_iff.2 hf)

end TimedLock.Holding
