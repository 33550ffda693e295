import Mathlib.Algebra.Order.Ring.Cast
import Mathlib.Algebra.Order.Ring.Rat
import TimedLock.Proofs.Agreement
import TimedLock.Proofs.Holding.HandlerPhase

/-!
# One timeout, whichever way a lock is taken

A lock is taken alone, for some work, or for an action whose result is wanted or not, and which has an
error handler or has none (`Taking`).

**Theorem (`takings_alike`).** All of them treat a timeout alike. Either it is refused, with the same
fault, before the lock, the work or the handler is touched; or the lock is asked once, for the same
time in the same unit.

Some of them resolve the timeout twice, which makes no difference since resolving what was resolved
changes nothing (`Timeout.resolve_resolve`). That the lock is asked once is read off a log. Each part
of a taking adds a certain list to it (`Writes`), whatever the lock answers: the request adds one
entry, and everything after it none.
-/

namespace TimedLock.Holding

open Number

/-! ## Ways of taking a lock -/

/-- The ways of taking a lock. A call has its result wanted or not, and its faults handled or not. -/
inductive Taking
  | alone
  | hold
  | call (keeps handled : Bool)

namespace Taking

/-- Takes a lock in one of the ways, which may have no use for the work or for the handler. -/
def run {σ : Type} [Journal σ] (taking : Taking) (lock : Handle σ) (timeout : Value)
    (unit : Option TimeUnit) (work : Run σ Value) (handler : Handler σ Value) : Run σ Value :=
  match taking with
  | .alone => do
    acquire lock timeout unit
    pure .null
  | .hold => Holding.hold (some lock) timeout unit work
  | .call keeps handled =>
    lockedCall keeps lock timeout unit work (if handled then some handler else none)

section Resolved

variable {σ : Type} [Journal σ] {lock : Handle σ} {timeout : Value} {unit : Option TimeUnit}
  {work : Run σ Value} {handler : Handler σ Value}

/-- A timeout that is refused is refused at once. -/
theorem run_of_rejection {fault : Fault} (taking : Taking)
    (h : Timeout.resolve timeout unit = .error fault) (s : σ) :
    taking.run lock timeout unit work handler s = (.error fault, s) := by
  cases taking with
  | alone =>
    simp only [run, acquire, h]
    rfl
  | hold => exact hold_of_rejection work h
  | call keeps handled =>
    simp only [run]
    rw [(Call.mk keeps lock timeout unit work).lockedCall_eq]
    exact Call.afterHandler_of_error (callLocked_of_rejection work _ h)

end Resolved

/-- Takings agree if their locks, their work and their handlers do. -/
theorem run_agree {ω σ : Type} [Journal ω] [Journal σ] {R : ω → σ → Prop} {lock : Handle ω}
    {lock' : Handle σ} {work : Run ω Value} {work' : Run σ Value} {handler : Handler ω Value}
    {handler' : Handler σ Value} (taking : Taking) (hR : Run.Journaled R) (h : lock.Agree R lock')
    (timeout : Value) (unit : Option TimeUnit) (hw : Run.Agree R work work')
    (hh : ∀ phase fault, Run.Agree R (handler phase fault) (handler' phase fault)) :
    Run.Agree R (taking.run lock timeout unit work handler)
      (taking.run lock' timeout unit work' handler') := by
  cases taking with
  | alone =>
    have hacquire : Run.Agree R (acquire lock timeout unit) (acquire lock' timeout unit) :=
      (Run.Agree.ofExcept _).bind fun _ => acquireWithin_agree hR h _ _
    exact hacquire.bind fun _ => .pure Value.null
  | hold => exact hold_agree hR h timeout unit hw
  | call keeps handled =>
    have hcall : Run.Agree R
        (callLocked (some lock) timeout unit work (if handled then some handler else none))
        (callLocked (some lock') timeout unit work' (if handled then some handler' else none)) := by
      cases handled with
      | true => exact callLocked_agree hR h timeout unit hw hh
      | false => exact callLocked_none_agree hR h timeout unit hw
    simp only [run]
    rw [(Call.mk keeps lock timeout unit work).lockedCall_eq,
      (Call.mk keeps lock' timeout unit work').lockedCall_eq]
    cases keeps with
    | true => exact hcall
    | false => exact hcall.bind fun _ => .pure Value.null

end Taking

/-! ## What a lock is asked for -/

/-- What a lock was asked for: times, and their units. -/
abbrev Requests := List (Value × TimeUnit)

/-- A lock that writes down what it is asked for. -/
def listed {σ : Type} (lock : Handle σ) : Handle (σ × Requests) where
  acquire time unit := do
    .change fun w => (w.1, w.2 ++ [(time, unit)])
    (lock.acquire time unit).inShared
  release := lock.release.inShared
  isHeld := lock.isHeld.inShared
  describe w := lock.describe w.1

theorem listed_agree {σ : Type} (lock : Handle σ) : (listed lock).Agree Run.Shares lock where
  acquire time unit := by
    rintro w _ rfl
    exact ⟨rfl, rfl⟩
  release := .inShared _
  isHeld := .inShared _
  describe := by
    rintro w _ rfl
    rfl

/-- A computation that adds `log` to what is written down, however it ends. -/
def Writes {σ ε α : Type} (log : List ε) (x : Run (σ × List ε) α) : Prop :=
  ∀ w, (x w).2.2 = w.2 ++ log

namespace Writes

variable {σ ε α γ : Type} {log : List ε} {x : Run (σ × List ε) α}

theorem of_inShared (x : Run σ α) : Writes ([] : List ε) x.inShared := fun w => by
  simp [Run.inShared_apply]

theorem ofExcept (outcome : Except Fault α) :
    Writes ([] : List ε) (.ofExcept outcome : Run (σ × List ε) α) := fun w => by
  simp [Run.ofExcept_apply]

theorem record [Journal σ] (entry : Entry) :
    Writes ([] : List ε) (.change (Journal.record entry) : Run (σ × List ε) Unit) := fun w =>
  (List.append_nil w.2).symm

/-- What comes after the writing may do anything but write. -/
theorem bind {f : α → Run (σ × List ε) γ} (hx : Writes log x) (hf : ∀ a, Writes [] (f a)) :
    Writes log (x >>= f) := by
  intro w
  have hw := hx w
  rcases h : x w with ⟨fault | a, v⟩
  · rw [Run.bind_error f h]
    simpa [h] using hw
  · rw [Run.bind_ok f h, hf a v, List.append_nil]
    simpa [h] using hw

theorem attempt (hx : Writes log x) : Writes log x.attempt := hx

theorem thenAlways {cleanUp : Run (σ × List ε) Unit} (hx : Writes log x)
    (hc : Writes [] cleanUp) : Writes log (x.thenAlways cleanUp) :=
  hx.attempt.bind fun outcome => hc.bind fun _ => ofExcept outcome

theorem recover {caught : Fault → Bool} {handler : Fault → Run (σ × List ε) α}
    (hx : Writes log x) (hh : ∀ fault, Writes [] (handler fault)) :
    Writes log (x.recover caught handler) := by
  refine hx.attempt.bind fun outcome => ?_
  cases outcome with
  | ok a => exact ofExcept (.ok a)
  | error fault =>
    by_cases hcaught : caught fault = true
    · simp only [hcaught, if_true]
      exact hh fault
    · simp only [hcaught, Bool.false_eq_true, if_false]
      exact ofExcept (.error fault)

end Writes

section Requests

variable {σ : Type} [Journal σ] {lock : Handle σ} {timeout time : Value} {unit : Option TimeUnit}
  {u : TimeUnit}

theorem writes_acquireWithin (lock : Handle σ) (time : Value) (u : TimeUnit) :
    Writes [(time, u)] (acquireWithin (listed lock) time u) := by
  have hasked : Writes [(time, u)] ((listed lock).acquire time u) := fun w => rfl
  refine hasked.attempt.bind fun answer => ?_
  cases answer with
  | error fault => exact .ofExcept (.error _)
  | ok obtained =>
    by_cases hobtained : obtained.isTruthy = true
    · simp only [hobtained, if_true]
      exact .ofExcept (.ok ())
    · simp only [hobtained, Bool.false_eq_true, if_false]
      exact (Writes.record _).bind fun _ => .ofExcept (.error _)

theorem writes_releaseHandle (lock : Handle σ) : Writes [] (releaseHandle (listed lock)) := by
  refine (Writes.of_inShared lock.release).attempt.bind fun answer => ?_
  cases answer with
  | ok _ => exact .ofExcept (.ok ())
  | error fault =>
    by_cases hf : fault.isOrdinary = true
    · simp only [hf, if_true]
      intro w
      exact Writes.record _ w
    · simp only [hf, Bool.false_eq_true, if_false]
      exact .ofExcept (.error _)

/-- A timeout that is accepted is resolved, and the lock is asked for what it is resolved to. -/
theorem writes_acquire (h : Timeout.resolve timeout unit = .ok (time, u)) :
    Writes [(time, u)] (acquire (listed lock) timeout unit) := by
  unfold acquire
  rw [h, Run.ofExcept_ok_bind]
  exact writes_acquireWithin lock time u

theorem writes_hold (h : Timeout.resolve timeout unit = .ok (time, u)) (work : Run σ Value) :
    Writes [(time, u)] (hold (some (listed lock)) timeout unit work.inShared) :=
  (writes_acquire h).bind fun _ => (Writes.of_inShared work).thenAlways (writes_releaseHandle lock)

theorem writes_callLocked (lock : Handle σ) (h : Timeout.resolve timeout unit = .ok (time, u))
    (work : Run σ Value) (handler : Handler σ Value) (handled : Bool) :
    Writes [(time, u)] (callLocked (some (listed lock)) timeout unit work.inShared
      (if handled then some fun phase fault => (handler phase fault).inShared else none)) := by
  have hheld : Writes [(time, u)] (hold (some (listed lock)) time (some u) work.inShared) :=
    writes_hold (Timeout.resolve_resolve h) work
  unfold callLocked
  rw [h, Run.ofExcept_ok_bind]
  cases handled with
  | true => exact hheld.recover fun fault => .of_inShared _
  | false => exact hheld

/-- **The lock is asked once**, whichever way it is taken. -/
theorem Taking.writes (taking : Taking) (h : Timeout.resolve timeout unit = .ok (time, u))
    (work : Run σ Value) (handler : Handler σ Value) :
    Writes [(time, u)] (taking.run (listed lock) timeout unit work.inShared
      fun phase fault => (handler phase fault).inShared) := by
  cases taking with
  | alone => exact (writes_acquire h).bind fun _ => .ofExcept (.ok Value.null)
  | hold => exact writes_hold h work
  | call keeps handled =>
    simp only [Taking.run]
    rw [(Call.mk keeps (listed lock) timeout unit work.inShared).lockedCall_eq]
    have hcall := writes_callLocked lock h work handler handled
    cases keeps with
    | true => exact hcall
    | false => exact hcall.bind fun _ => .ofExcept (.ok Value.null)

end Requests

/-! ## Timeouts -/

/-- What becomes of a timeout that is a length of time or a number: it is refused, or a lock is asked
for a time in a unit. A length of time is exact in nanoseconds, and takes no unit; a number is in
seconds, unless a unit is given. -/
inductive Verdict : Value → Option TimeUnit → Except Fault (Value × TimeUnit) → Prop
  | unitGiven {micros : Int} {u : TimeUnit} :
      Verdict (.duration micros) (some u) (.error Problem.unitWithDuration.fault)
  | negativeDuration {micros : Int} : micros < 0 → Verdict (.duration micros) none
      (.error (Problem.negativeTimeout (.int (1000 * micros)) .nanoseconds).fault)
  | duration {micros : Int} : 0 ≤ micros →
      Verdict (.duration micros) none (.ok (.int (1000 * micros), .nanoseconds))
  | negative {time : Value} {unit : Option TimeUnit} {q : Quantity} : time.quantity? = some q →
      q.lt .zero = true →
      Verdict time unit (.error (Problem.negativeTimeout time (unit.getD .seconds)).fault)
  | number {time : Value} {unit : Option TimeUnit} {q : Quantity} : time.quantity? = some q →
      q.lt .zero = false → Verdict time unit (.ok (time, unit.getD .seconds))

/-- A length of time that is given with a unit is refused as one of a wrong type, and everything else
as a wrong value. -/
def refusedAs : Value → Option TimeUnit → FaultKind
  | .duration _, some _ => .badType
  | _, _ => .badValue

theorem Verdict.kind_eq {timeout : Value} {unit : Option TimeUnit} {fault : Fault}
    (h : Verdict timeout unit (.error fault)) : fault.kind = refusedAs timeout unit := by
  cases h with
  | unitGiven => rfl
  | negativeDuration _ => rfl
  | negative hq _ =>
    cases timeout with
    | duration micros => cases hq
    | _ => rfl

/-- Whether a timeout is a length of time or a number. -/
def IsTime (timeout : Value) : Prop :=
  (∃ micros, timeout = .duration micros) ∨ ∃ q, timeout.quantity? = some q

/-- Resolving a timeout does just that. -/
theorem verdict_resolve {timeout : Value} (ht : IsTime timeout) (unit : Option TimeUnit) :
    Verdict timeout unit (Timeout.resolve timeout unit) := by
  rcases ht with ⟨micros, rfl⟩ | ⟨q, hq⟩
  · cases unit with
    | some u => exact .unitGiven
    | none =>
      have hlt : (Quantity.ofInt (1000 * micros)).lt .zero = decide (micros < 0) := by
        refine decide_eq_decide.2 ?_
        rw [← Int.cast_zero, Int.cast_lt]
        omega
      show Verdict _ _ (Timeout.accept (.int (1000 * micros)) .nanoseconds)
      rw [Timeout.accept_of_quantity rfl, hlt]
      by_cases hm : micros < 0
      · simp only [hm, decide_true, if_true]
        exact .negativeDuration hm
      · simp only [hm, decide_false, Bool.false_eq_true, if_false]
        exact .duration (not_lt.1 hm)
  · have hresolve : Timeout.resolve timeout unit = Timeout.accept timeout (unit.getD .seconds) := by
      cases timeout with
      | duration micros => cases hq
      | _ => rfl
    rw [hresolve, Timeout.accept_of_quantity hq]
    by_cases hlt : q.lt .zero = true
    · simp only [hlt, if_true]
      exact .negative hq hlt
    · simp only [hlt, Bool.false_eq_true, if_false]
      exact .number hq (Bool.eq_false_iff.2 hlt)

/-- What all ways of taking a lock do with a timeout, given its verdict. A fault is that of every
taking, from every world, which is left as it is. What is asked of the lock is written down, which
changes nothing else, and it is the same for every taking. -/
def Alike (timeout : Value) (unit : Option TimeUnit) : Except Fault (Value × TimeUnit) → Prop
  | .error fault => ∀ {σ : Type} [Journal σ] (taking : Taking) (lock : Handle σ)
      (work : Run σ Value) (handler : Handler σ Value) (s : σ),
      taking.run lock timeout unit work handler s = (.error fault, s)
  | .ok (time, u) => ∀ {σ : Type} [Journal σ] (taking : Taking) (lock : Handle σ)
      (work : Run σ Value) (handler : Handler σ Value) (s : σ),
      let ran := taking.run (listed lock) timeout unit work.inShared
        (fun phase fault => (handler phase fault).inShared) (s, [])
      taking.run lock timeout unit work handler s = (ran.1, ran.2.1) ∧ ran.2.2 = [(time, u)]

/-- **All ways of taking a lock treat a timeout alike.** -/
theorem takings_alike {timeout : Value} (ht : IsTime timeout) (unit : Option TimeUnit) :
    ∃ verdict, Verdict timeout unit verdict ∧ Alike timeout unit verdict ∧
      ∀ fault, verdict = .error fault → fault.kind = refusedAs timeout unit := by
  have hverdict : Verdict timeout unit (Timeout.resolve timeout unit) := verdict_resolve ht unit
  refine ⟨Timeout.resolve timeout unit, hverdict, ?_, fun fault h => ?_⟩
  · rcases h : Timeout.resolve timeout unit with fault | ⟨time, u⟩
    · intro σ _ taking lock work handler s
      exact taking.run_of_rejection h s
    · intro σ _ taking lock work handler s ran
      obtain ⟨houtcome, hworld⟩ := taking.run_agree Run.Shares.journaled (listed_agree lock)
        timeout unit (.inShared work) (fun phase fault => .inShared (handler phase fault)) (s, []) s
        rfl
      exact ⟨Prod.ext houtcome.symm hworld.symm, taking.writes h work handler (s, [])⟩
  · rw [h] at hverdict
    exact hverdict.kind_eq

/-- One and a half milliseconds are asked for exactly. -/
theorem takings_alike_duration :
    Alike (.duration 1500) none (.ok (.int 1500000, .nanoseconds)) := by
  have ht : IsTime (.duration 1500) := .inl ⟨1500, rfl⟩
  obtain ⟨verdict, hverdict, halike, -⟩ := takings_alike ht none
  cases hverdict with
  | negativeDuration h => simp at h
  | duration _ => exact @halike
  | negative hq _ => cases hq
  | number hq _ => cases hq

end TimedLock.Holding
