import TimedLock.Proofs.Holding.Discipline
import TimedLock.Proofs.Lock.EndlessWait
import TimedLock.Proofs.Lock.LeaseAlternation
import TimedLock.Proofs.Lock.MemoryCache

/-!
# How an acquisition may end

**Theorem (`acquisition_outcomes`).** An acquisition with a timeout that is accepted ends in one of
four ways, and what its lock did says in which. It returns if the lock was obtained. It says that the
time is over if the service declined or its wait expired, if the lease was granted already, or if no
time was left after a try of a cache mutex. If anything raised another fault, it says that it failed
because of that fault, and a demand to stop goes on as it is.

One that does not return leaves the mutex as it was: its owner and its holds, or its token and what the
cache stores, unless others changed these during a sleep. And the lock is asked once and never
released.

A cache mutex may also wait for ever, and then none of this comes about. By a clock that goes on, its
acquisitions always end just if the timeout has an end. Two kinds of timeouts that are accepted have
none: one of infinitely many seconds, which asks for such a wait, and the double that is no number,
which nobody means as a time (`not_concludes_of_undefined`).

What a lock answers to `acquire` decides the way (`outcomes_of_answer`), so what is left is to say, for
each mutex, where its answers come from.
-/

namespace TimedLock

open Holding

/-! ## The four ways -/

namespace Holding

/-- The ways in which an acquisition for a time may end, and what each of them tells: that the lock was
obtained, that it was late, or that a fault was raised. -/
structure Outcomes (time : Value) (unit : TimeUnit) (result : Except Fault Unit)
    (obtained late : Prop) (raised : Fault → Prop) : Prop where
  returns : result = .ok () ↔ obtained
  timesOut : result = .error (Problem.acquireTimedOut time unit).fault ↔ late
  fails : ∀ fault, fault.isOrdinary = true →
    (result = .error (Problem.acquireFailed.causedBy fault) ↔ raised fault)
  stops : ∀ fault, fault.isOrdinary = false → (result = .error fault ↔ raised fault)
  /-- There is no other way. -/
  closed : obtained ∨ late ∨ ∃ fault, raised fault
  /-- No two of them are taken. -/
  apart : ¬(obtained ∧ late)
  alone : ∀ fault, raised fault → ¬obtained ∧ ¬late ∧ ∀ other, raised other → other = fault

/-- What an acquisition makes of the answer of its lock. -/
def told (time : Value) (unit : TimeUnit) (answer : Except Fault Value) : Except Fault Unit :=
  if isGrant answer then .ok () else .error (refusal time unit answer)

theorem timedOut_ne_failed (time : Value) (unit : TimeUnit) (fault : Fault) :
    (Problem.acquireTimedOut time unit).fault ≠ Problem.acquireFailed.causedBy fault := by
  intro h
  cases congrArg Fault.kind h

theorem failed_injective {fault other : Fault}
    (h : Problem.acquireFailed.causedBy fault = Problem.acquireFailed.causedBy other) :
    fault = other := Option.some.inj (congrArg Fault.cause h)

/-- What this library says about an acquisition is no demand to stop. -/
theorem ne_of_isAcquisition {fault other : Fault} (h : fault.isAcquisition = true)
    (ho : other.isOrdinary = false) : fault ≠ other := by
  rintro rfl
  rw [Fault.isOrdinary, FaultKind.isOrdinary_of_isAcquisition h] at ho
  cases ho

namespace Outcomes

variable {time : Value} {unit : TimeUnit} {result : Except Fault Unit}
  {obtained late late' : Prop} {raised raised' : Fault → Prop}

theorem congr (h : Outcomes time unit result obtained late raised) (hl : late ↔ late')
    (hr : ∀ fault, raised fault ↔ raised' fault) :
    Outcomes time unit result obtained late' raised' := by
  obtain rfl := propext hl
  obtain rfl := funext fun fault => propext (hr fault)
  exact h

theorem of_obtained (ho : obtained) (hl : ¬late) (hr : ∀ fault, ¬raised fault) :
    Outcomes time unit (.ok ()) obtained late raised where
  returns := by simp [ho]
  timesOut := by simp [hl]
  fails fault _ := by simp [hr]
  stops fault _ := by simp [hr]
  closed := .inl ho
  apart h := hl h.2
  alone fault h := absurd h (hr fault)

theorem of_late (ho : ¬obtained) (hl : late) (hr : ∀ fault, ¬raised fault) :
    Outcomes time unit (.error (Problem.acquireTimedOut time unit).fault) obtained late raised where
  returns := by simp [ho]
  timesOut := by simp [hl]
  fails fault _ := by simpa [hr] using timedOut_ne_failed time unit fault
  stops fault hf := by simpa [hr] using ne_of_isAcquisition rfl hf
  closed := .inr (.inl hl)
  apart h := ho h.1
  alone fault h := absurd h (hr fault)

/-- The fault is the cause of a failure if it is ordinary, and goes on as it is if not. -/
theorem of_raised {fault : Fault} (ho : ¬obtained) (hl : ¬late)
    (hr : ∀ other, raised other ↔ other = fault) :
    Outcomes time unit (told time unit (.error fault)) obtained late raised := by
  have hresult : told time unit (.error fault)
      = .error (if fault.isOrdinary then Problem.acquireFailed.causedBy fault else fault) := rfl
  have apart : ¬(obtained ∧ late) := fun h => ho h.1
  have alone : ∀ other, raised other → ¬obtained ∧ ¬late ∧ ∀ third, raised third → third = other :=
    fun other h => ⟨ho, hl, fun third h' => ((hr third).1 h').trans ((hr other).1 h).symm⟩
  have closed : obtained ∨ late ∨ ∃ fault, raised fault := .inr (.inr ⟨fault, (hr fault).2 rfl⟩)
  rw [hresult]
  cases hf : fault.isOrdinary with
  | true =>
    rw [if_pos rfl]
    refine ⟨by simp [ho], ?_, fun other _ => ?_, fun other hother => ?_, closed, apart, alone⟩
    · simpa [hl] using (timedOut_ne_failed time unit fault).symm
    · rw [hr, Except.error.injEq]
      exact ⟨fun h => (failed_injective h).symm, fun h => congrArg _ h.symm⟩
    · rw [hr, Except.error.injEq]
      refine ⟨fun h => absurd h (ne_of_isAcquisition rfl hother), ?_⟩
      rintro rfl
      exact absurd hf (Bool.eq_false_iff.1 hother)
  | false =>
    rw [if_neg Bool.false_ne_true]
    refine ⟨by simp [ho], ?_, fun other hother => ?_, fun other _ => ?_, closed, apart, alone⟩
    · simpa [hl] using (ne_of_isAcquisition rfl hf).symm
    · rw [hr, Except.error.injEq]
      refine ⟨fun h => absurd h.symm (ne_of_isAcquisition rfl hf), ?_⟩
      rintro rfl
      exact absurd hother (Bool.eq_false_iff.1 hf)
    · rw [hr, Except.error.injEq, eq_comm]

end Outcomes

/-- **The answer of the lock decides how an acquisition ends.** -/
theorem outcomes_of_answer (time : Value) (unit : TimeUnit) (answer : Except Fault Value) :
    Outcomes time unit (told time unit answer) (isGrant answer = true)
      (∃ v, answer = .ok v ∧ v.isTruthy = false) (answer = .error ·) := by
  rcases answer with fault | v
  · refine .of_raised (by simp [isGrant]) (by simp) fun other => ?_
    rw [Except.error.injEq, eq_comm]
  cases hv : v.isTruthy with
  | true =>
    have hresult : told time unit (.ok v) = .ok () := if_pos hv
    rw [hresult]
    exact .of_obtained hv (by simp [hv]) (by simp)
  | false =>
    have hresult : told time unit (.ok v) = .error (Problem.acquireTimedOut time unit).fault :=
      if_neg (Bool.eq_false_iff.1 hv)
    rw [hresult]
    exact .of_late (by simp [isGrant, hv]) ⟨v, rfl, hv⟩ (by simp)

section Handles

variable {σ δ : Type} [Journal σ] {lock : Handle σ} {timeout time : Value} {unit : Option TimeUnit}
  {u : TimeUnit} {s t : σ} {answer : Except Fault Value}

theorem acquire_of_answer (hres : Timeout.resolve timeout unit = .ok (time, u))
    (ha : lock.acquire time u s = (answer, t)) :
    ∃ t', acquire lock timeout unit s = (told time u answer, t') ∧ Noted t t' := by
  unfold acquire
  rw [hres, Run.ofExcept_ok_bind]
  cases hg : isGrant answer with
  | true =>
    rw [told, if_pos hg]
    exact ⟨t, acquireWithin_of_grant ha hg, .refl t⟩
  | false =>
    rw [told, if_neg (Bool.eq_false_iff.1 hg)]
    exact acquireWithin_of_refusal ha hg

/-- An acquisition that ends in one of the four ways, and leaves the world as it should if it does not
return. -/
structure Acquisition (lock : Handle σ) (timeout : Value) (unit : Option TimeUnit) (time : Value)
    (u : TimeUnit) (s : σ) (late : Prop) (raised : Fault → Prop) (kept : σ → Prop) : Prop where
  outcomes : Outcomes time u (acquire lock timeout unit s).1
    (isGrant (lock.acquire time u s).1 = true) late raised
  kept : (acquire lock timeout unit s).1 ≠ .ok () → kept (acquire lock timeout unit s).2

theorem acquire_outcomes (hres : Timeout.resolve timeout unit = .ok (time, u)) (lock : Handle σ)
    (s : σ) :
    Outcomes time u (acquire lock timeout unit s).1 (isGrant (lock.acquire time u s).1 = true)
      (∃ v, (lock.acquire time u s).1 = .ok v ∧ v.isTruthy = false)
      ((lock.acquire time u s).1 = .error ·) := by
  rcases ha : lock.acquire time u s with ⟨answer, t⟩
  obtain ⟨t', ht', -⟩ := acquire_of_answer hres ha
  rw [ht']
  exact outcomes_of_answer time u answer

/-- What no entry of the journal changes is after an acquisition as the lock left it. -/
theorem acquire_part (hres : Timeout.resolve timeout unit = .ok (time, u)) (part : σ → δ)
    (hpart : ∀ entry s, part (Journal.record entry s) = part s) (lock : Handle σ) (s : σ) :
    part (acquire lock timeout unit s).2 = part (lock.acquire time u s).2 := by
  rcases ha : lock.acquire time u s with ⟨answer, t⟩
  obtain ⟨t', ht', hn⟩ := acquire_of_answer hres ha
  rw [ht']
  exact hn.eq_of part hpart

/-- An acquisition asks its lock once, and does not release it. -/
theorem acquire_deeds (hres : Timeout.resolve timeout unit = .ok (time, u)) (lock : Handle σ)
    (call : Nat) (ledger : Ledger) (s : σ) :
    (acquire (watched lock call) timeout unit (s, ledger)).2.2
      = { ledger with deeds := ledger.deeds ++ [.asked call (lock.acquire time u s).1] } :=
  acquire_part hres Prod.snd (fun _ _ => rfl) (watched lock call) (s, ledger)

end Handles

end Holding

namespace Lock

variable {σ δ : Type}

/-! ## Asking a service -/

/-- The service says no, or that the wait has expired. -/
def Declines : Except Fault Value → Prop
  | .ok v => v.isTruthy = false
  | .error fault => fault.kind = .waitExpired

theorem heard_eq_ok_falsy_iff (answer : Except Fault Value) :
    (∃ v, heard answer = .ok v ∧ v.isTruthy = false) ↔ Declines answer := by
  cases answer with
  | ok v => simp [heard, Declines]
  | error fault =>
    by_cases h : fault.kind = .waitExpired
    · simp only [heard, Declines, h, if_true, iff_true]
      exact ⟨_, rfl, rfl⟩
    · simp [heard, Declines, h]

/-- The service is asked for the lock, and declines. -/
def Recipe.Late (recipe : Recipe σ) (time : Value) (unit : TimeUnit) (s : σ) : Prop :=
  ∃ wait, Wait.ofTime time unit = .ok wait ∧ Declines (recipe.acquire wait s).1

/-- There is no wait for the time, or the service is asked for the lock and fails, for another reason
than that the wait has expired. -/
def Recipe.Raises (recipe : Recipe σ) (time : Value) (unit : TimeUnit) (s : σ) (fault : Fault) :
    Prop :=
  Wait.ofTime time unit = .error fault ∨
    ∃ wait, Wait.ofTime time unit = .ok wait ∧ (recipe.acquire wait s).1 = .error fault ∧
      fault.kind ≠ .waitExpired

section Recipe

variable [Journal σ] {recipe : Recipe σ} {time : Value} {unit : TimeUnit}

theorem Recipe.acquireWithin_late_iff (recipe : Recipe σ) (path time : Value) (unit : TimeUnit)
    (s : σ) :
    (∃ v, (recipe.acquireWithin path time unit s).1 = .ok v ∧ v.isTruthy = false) ↔
      recipe.Late time unit s := by
  cases hw : Wait.ofTime time unit with
  | error fault =>
    rw [acquireWithin_of_noWait hw path s]
    simp [Recipe.Late, hw]
  | ok wait =>
    rcases ha : recipe.acquire wait s with ⟨answer, t⟩
    obtain ⟨t', ht', -⟩ := acquireWithin_of_answer hw path ha
    rw [ht', heard_eq_ok_falsy_iff]
    simp [Recipe.Late, hw, ha]

theorem Recipe.acquireWithin_raises_iff (recipe : Recipe σ) (path time : Value) (unit : TimeUnit)
    (s : σ) (fault : Fault) :
    (recipe.acquireWithin path time unit s).1 = .error fault ↔ recipe.Raises time unit s fault := by
  cases hw : Wait.ofTime time unit with
  | error other =>
    rw [acquireWithin_of_noWait hw path s]
    simp [Recipe.Raises, hw]
  | ok wait =>
    rcases ha : recipe.acquire wait s with ⟨answer, t⟩
    obtain ⟨t', ht', -⟩ := acquireWithin_of_answer hw path ha
    rw [ht', heard_eq_error_iff]
    simp [Recipe.Raises, hw, ha]

/-- What neither the service nor the journal changes is the same after asking. -/
theorem Recipe.acquireWithin_part {part : σ → δ}
    (hask : ∀ wait s, part (recipe.acquire wait s).2 = part s)
    (hnoted : ∀ entry s, part (Journal.record entry s) = part s) (path time : Value)
    (unit : TimeUnit) (s : σ) : part (recipe.acquireWithin path time unit s).2 = part s := by
  cases hw : Wait.ofTime time unit with
  | error fault => rw [acquireWithin_of_noWait hw path s]
  | ok wait =>
    have hasked := hask wait s
    rcases ha : recipe.acquire wait s with ⟨answer, t⟩
    obtain ⟨t', ht', hn⟩ := acquireWithin_of_answer hw path ha
    rw [ha] at hasked
    rw [ht', hn.eq_of part hnoted, hasked]

end Recipe

/-! ## The re-entrant mutex -/

namespace Reentrant

/-- The thread does not own the mutex, and the service declines. -/
def Late (lock : Reentrant σ) (me : Thread) (time : Value) (unit : TimeUnit) (s : σ) : Prop :=
  (lock.ownership.read s).owner ≠ some me ∧ lock.recipe.Late time unit s

/-- The thread does not own the mutex, and asking the service fails. -/
def Raises (lock : Reentrant σ) (me : Thread) (time : Value) (unit : TimeUnit) (s : σ)
    (fault : Fault) : Prop :=
  (lock.ownership.read s).owner ≠ some me ∧ lock.recipe.Raises time unit s fault

variable [Journal σ]

theorem acquire_late_iff (lock : Reentrant σ) (me : Thread) (time : Value) (unit : TimeUnit)
    (s : σ) :
    (∃ v, (lock.acquire me time unit s).1 = .ok v ∧ v.isTruthy = false) ↔
      lock.Late me time unit s := by
  by_cases ho : (lock.ownership.read s).owner = some me
  · rw [acquire_again ho]
    simp [Late, ho, Value.isTruthy]
  · have hasked := lock.recipe.acquireWithin_late_iff lock.path time unit s
    rcases ha : lock.recipe.acquireWithin lock.path time unit s with ⟨answer, t⟩
    rw [ha] at hasked
    rw [acquire_asking ho ha, hasked]
    simp [Late, ho]

theorem acquire_raises_iff (lock : Reentrant σ) (me : Thread) (time : Value) (unit : TimeUnit)
    (s : σ) (fault : Fault) :
    (lock.acquire me time unit s).1 = .error fault ↔ lock.Raises me time unit s fault := by
  by_cases ho : (lock.ownership.read s).owner = some me
  · rw [acquire_again ho]
    simp [Raises, ho]
  · have hasked := lock.recipe.acquireWithin_raises_iff lock.path time unit s fault
    rcases ha : lock.recipe.acquireWithin lock.path time unit s with ⟨answer, t⟩
    rw [ha] at hasked
    rw [acquire_asking ho ha, hasked]
    simp [Raises, ho]

/-- What neither the service nor the journal changes is the same after an acquisition that is not
granted. -/
theorem acquire_part {lock : Reentrant σ} {part : σ → δ}
    (hask : ∀ wait s, part (lock.recipe.acquire wait s).2 = part s)
    (hnoted : ∀ entry s, part (Journal.record entry s) = part s) {me : Thread} {time : Value}
    {unit : TimeUnit} {s : σ} (hg : isGrant (lock.acquire me time unit s).1 = false) :
    part (lock.acquire me time unit s).2 = part s := by
  by_cases ho : (lock.ownership.read s).owner = some me
  · rw [acquire_again ho] at hg
    cases hg
  · have hasked := Recipe.acquireWithin_part hask hnoted lock.path time unit s
    rcases ha : lock.recipe.acquireWithin lock.path time unit s with ⟨answer, t⟩
    rw [ha] at hasked
    rw [acquire_asking ho ha] at hg ⊢
    rwa [if_neg (Bool.eq_false_iff.1 hg)]

end Reentrant

/-! ## The single-lease mutex -/

namespace Lease

/-- The lease is granted already, or it is not and the service declines. -/
inductive Late (lock : Lease σ) (time : Value) (unit : TimeUnit) (s : σ) : Prop
  | granted {v : Value} {t : σ} : lock.recipe.isGranted s = (.ok v, t) → v.isTruthy = true →
      Late lock time unit s
  | asked {v : Value} {t : σ} : lock.recipe.isGranted s = (.ok v, t) → v.isTruthy = false →
      lock.recipe.Late time unit t → Late lock time unit s

/-- The service does not tell whether the lease is granted, or it is not and asking for it fails. -/
inductive Raises (lock : Lease σ) (time : Value) (unit : TimeUnit) (s : σ) : Fault → Prop
  | unreadable {fault : Fault} {t : σ} : lock.recipe.isGranted s = (.error fault, t) →
      Raises lock time unit s fault
  | asked {fault : Fault} {v : Value} {t : σ} : lock.recipe.isGranted s = (.ok v, t) →
      v.isTruthy = false → lock.recipe.Raises time unit t fault → Raises lock time unit s fault

variable [Journal σ]

theorem acquire_late_iff (lock : Lease σ) (time : Value) (unit : TimeUnit) (s : σ) :
    (∃ v, (lock.acquire time unit s).1 = .ok v ∧ v.isTruthy = false) ↔ lock.Late time unit s := by
  rcases hi : lock.recipe.isGranted s with ⟨fault | v, t⟩
  · rw [acquire_of_unreadable hi]
    refine ⟨by simp, ?_⟩
    rintro (⟨h, _⟩ | ⟨h, _⟩) <;> simp [hi] at h
  cases hv : v.isTruthy with
  | true =>
    obtain ⟨t', ht', -⟩ := acquire_of_granted hi hv time unit
    rw [ht']
    exact ⟨fun _ => .granted hi hv, fun _ => ⟨_, rfl, rfl⟩⟩
  | false =>
    rw [acquire_asking hi hv, Recipe.acquireWithin_late_iff]
    refine ⟨.asked hi hv, ?_⟩
    rintro (⟨h, hv'⟩ | ⟨h, _, hl⟩) <;> cases hi.symm.trans h
    · rw [hv] at hv'
      cases hv'
    · exact hl

theorem acquire_raises_iff (lock : Lease σ) (time : Value) (unit : TimeUnit) (s : σ)
    (fault : Fault) :
    (lock.acquire time unit s).1 = .error fault ↔ lock.Raises time unit s fault := by
  rcases hi : lock.recipe.isGranted s with ⟨other | v, t⟩
  · rw [acquire_of_unreadable hi]
    refine ⟨?_, ?_⟩
    · rintro ⟨⟩
      exact .unreadable hi
    · rintro (h | ⟨h, _, _⟩) <;> cases hi.symm.trans h
      rfl
  cases hv : v.isTruthy with
  | true =>
    obtain ⟨t', ht', -⟩ := acquire_of_granted hi hv time unit
    rw [ht']
    refine ⟨by simp, ?_⟩
    rintro (h | ⟨h, hv', _⟩) <;> cases hi.symm.trans h
    rw [hv] at hv'
    cases hv'
  | false =>
    rw [acquire_asking hi hv, Recipe.acquireWithin_raises_iff]
    refine ⟨.asked hi hv, ?_⟩
    rintro (h | ⟨h, _, hr⟩) <;> cases hi.symm.trans h
    exact hr

/-- What neither the service nor the journal changes is the same after an acquisition. -/
theorem acquire_part {lock : Lease σ} {part : σ → δ}
    (hread : ∀ s, part (lock.recipe.isGranted s).2 = part s)
    (hask : ∀ wait s, part (lock.recipe.acquire wait s).2 = part s)
    (hnoted : ∀ entry s, part (Journal.record entry s) = part s) (time : Value) (unit : TimeUnit)
    (s : σ) : part (lock.acquire time unit s).2 = part s := by
  have hstart := hread s
  rcases hi : lock.recipe.isGranted s with ⟨fault | v, t⟩
  · rw [hi] at hstart
    rw [acquire_of_unreadable hi]
    exact hstart
  rw [hi] at hstart
  cases hv : v.isTruthy with
  | true =>
    obtain ⟨t', ht', hn⟩ := acquire_of_granted hi hv time unit
    rw [ht']
    exact (hn.eq_of part hnoted).trans hstart
  | false =>
    rw [acquire_asking hi hv]
    exact (Recipe.acquireWithin_part hask hnoted lock.path time unit t).trans hstart

end Lease

/-! ## All mutexes -/

section Mutexes

variable [Journal σ] {timeout time : Value} {unit : Option TimeUnit} {u : TimeUnit}

theorem reentrant_acquisition (hres : Timeout.resolve timeout unit = .ok (time, u)) (path : Value)
    (recipe : Recipe σ) (me : Thread) (w : Reentrant.World σ) :
    Acquisition ((Reentrant.ofPath path recipe).handle me) timeout unit time u w
      ((Reentrant.ofPath path recipe).Late me time u w)
      ((Reentrant.ofPath path recipe).Raises me time u w)
      fun v => v.2 = w.2 ∧ Reentrant.returns v = Reentrant.returns w := by
  let lock := Reentrant.ofPath path recipe
  have houtcomes := (acquire_outcomes hres (lock.handle me) w).congr
    (lock.acquire_late_iff me time u w) (lock.acquire_raises_iff me time u w)
  refine ⟨houtcomes, fun hne => ?_⟩
  have hg : isGrant (lock.acquire me time u w).1 = false :=
    Bool.eq_false_iff.2 fun hg => hne (houtcomes.returns.2 hg)
  let part (w : Reentrant.World σ) := (w.2, Reentrant.returns w)
  have hnoted (entry : Entry) (w : Reentrant.World σ) : part (Journal.record entry w) = part w := rfl
  have hask (wait : Wait) (w : Reentrant.World σ) :
      part (lock.recipe.acquire wait w).2 = part w := by
    show (_, (w.1.2 ++ [_]).filterMap Errand.returned?) = _
    rw [List.filterMap_append]
    exact congrArg (Prod.mk w.2) (List.append_nil _)
  exact Prod.ext_iff.1 ((acquire_part hres part hnoted (lock.handle me) w).trans
    (Reentrant.acquire_part hask hnoted hg))

theorem lease_acquisition (hres : Timeout.resolve timeout unit = .ok (time, u)) (path : Value)
    (recipe : Recipe σ) (w : σ × List Errand) :
    Acquisition (Lease.ofPath path recipe).handle timeout unit time u w
      ((Lease.ofPath path recipe).Late time u w) ((Lease.ofPath path recipe).Raises time u w)
      fun v => v.2.filterMap Errand.returned? = w.2.filterMap Errand.returned? := by
  let lock := Lease.ofPath path recipe
  refine ⟨(acquire_outcomes hres lock.handle w).congr (lock.acquire_late_iff time u w)
    (lock.acquire_raises_iff time u w), fun _ => ?_⟩
  let part (w : σ × List Errand) := w.2.filterMap Errand.returned?
  have hnoted (entry : Entry) (w : σ × List Errand) : part (Journal.record entry w) = part w := rfl
  have hask (wait : Wait) (w : σ × List Errand) : part (lock.recipe.acquire wait w).2 = part w := by
    show (w.2 ++ [_]).filterMap Errand.returned? = _
    rw [List.filterMap_append]
    exact List.append_nil _
  exact (acquire_part hres part hnoted lock.handle w).trans
    (Lease.acquire_part (fun _ => rfl) hask hnoted time u w)

/-- An acquisition of a cache mutex that ends, given the patience that it takes, in one of the four
ways. -/
def Cached.Concludes (env : Surroundings σ) (lock : Cached σ) (timeout : Value)
    (unit : Option TimeUnit) (time : Value) (u : TimeUnit) (s : σ) : Prop :=
  ∃ tries naps outcome t, lock.Ends env time u s tries naps outcome t ∧
    ∀ patience, tries ≤ patience →
      Acquisition (lock.handle (env.withPatience patience)) timeout unit time u s
        (outcome = .ok false) (outcome = .error ·)
        fun v => ∀ {δ : Type} (stored : σ → δ), lock.Calm env stored →
          Untouched (lock.kept stored) s naps v

/-- **An acquisition of a cache mutex that ends does so in one of the four ways.** -/
theorem concludes_of_ends (hres : Timeout.resolve timeout unit = .ok (time, u))
    {env : Surroundings σ} {lock : Cached σ} {s t : σ} {tries : Nat} {naps : List (σ × σ)}
    {outcome : Except Fault Bool} (hends : lock.Ends env time u s tries naps outcome t) :
    lock.Concludes env timeout unit time u s := by
  refine ⟨tries, naps, outcome, t, hends, fun patience hb => ?_⟩
  obtain ⟨t', ht', hn⟩ := Cached.acquire_of_ends (hends.withPatience patience) hb
  let lock' := lock.handle (env.withPatience patience)
  have hanswer : lock'.acquire time u s = (outcome.map Value.bool, t') := ht'
  have houtcomes := acquire_outcomes hres lock' s
  have hlate :
      (∃ v, outcome.map Value.bool = .ok v ∧ v.isTruthy = false) ↔ outcome = .ok false := by
    rcases outcome with fault | _ | _ <;> simp [Except.map, Value.isTruthy]
  have hraises (fault : Fault) :
      outcome.map Value.bool = .error fault ↔ outcome = .error fault := by
    cases outcome <;> simp [Except.map]
  rw [hanswer] at houtcomes
  refine ⟨by rw [hanswer]; exact houtcomes.congr hlate hraises, fun hne _ stored hc => ?_⟩
  have ho : outcome ≠ .ok true := by
    rintro rfl
    exact hne (houtcomes.returns.2 rfl)
  refine (hends.untouched hc ho).before ?_
  rw [acquire_part hres _ hc.noted, hanswer]
  exact hn.eq_of _ hc.noted

/-- **The outcomes of an acquisition** with a timeout that is accepted, for a re-entrant mutex, for a
single-lease mutex and for a cache mutex. That of a cache mutex may also have no outcome, as its wait
goes on for ever; by a clock that goes on, all have one just if the timeout has an end. The lock is
asked once and not released, whatever it is. -/
theorem acquisition_outcomes (hres : Timeout.resolve timeout unit = .ok (time, u)) :
    (∀ (path : Value) (recipe : Recipe σ) (me : Thread) (w : Reentrant.World σ),
      Acquisition ((Reentrant.ofPath path recipe).handle me) timeout unit time u w
        ((Reentrant.ofPath path recipe).Late me time u w)
        ((Reentrant.ofPath path recipe).Raises me time u w)
        fun v => v.2 = w.2 ∧ Reentrant.returns v = Reentrant.returns w) ∧
    (∀ (path : Value) (recipe : Recipe σ) (w : σ × List Errand),
      Acquisition (Lease.ofPath path recipe).handle timeout unit time u w
        ((Lease.ofPath path recipe).Late time u w) ((Lease.ofPath path recipe).Raises time u w)
        fun v => v.2.filterMap Errand.returned? = w.2.filterMap Errand.returned?) ∧
    (∀ (env : Surroundings σ) (lock : Cached σ) (s : σ),
      lock.Concludes env timeout unit time u s ∨ lock.GoesOn env time u s) ∧
    ((∀ {ω : Type} [Journal ω] {env : Surroundings ω} {lock : Cached ω} {clock : ω → ℚ} {δ : ℚ},
        0 < δ → Advancing env lock clock δ → ∀ w, clock w < Number.halfGap →
        lock.Concludes env timeout unit time u w) ↔ HasEnd time u) ∧
    ∀ (lock : Handle σ) (call : Nat) (ledger : Ledger) (s : σ),
      (Holding.acquire (watched lock call) timeout unit (s, ledger)).2.2
        = { ledger with deeds := ledger.deeds ++ [.asked call (lock.acquire time u s).1] } := by
  refine ⟨reentrant_acquisition hres, lease_acquisition hres, fun env lock s => ?_, ?_,
    acquire_deeds hres⟩
  · obtain ⟨tries, naps, outcome, t, hends⟩ | hgoes := ends_or_goesOn env lock time u s
    · exact .inl (concludes_of_ends hres hends)
    · exact .inr hgoes
  · rw [← ends_iff_hasEnd hres]
    constructor
    · intro h ω _ env lock clock δ hδ hclock w hw
      obtain ⟨tries, naps, outcome, t, hends, -⟩ := h hδ hclock w hw
      exact ⟨tries, naps, outcome, t, hends⟩
    · intro h ω _ env lock clock δ hδ hclock w hw
      obtain ⟨tries, naps, outcome, t, hends⟩ := h hδ hclock w hw
      exact concludes_of_ends hres hends

end Mutexes

/-! ## A cache that cannot be reached -/

/-- A cache in memory that has lost its connection, so that nothing can be added. -/
def unreachable : Surroundings (Memory × Option String) :=
  { Memory.surroundings.shared with add := fun _ _ _ => .fail (.simple .connectionLoss none) }

/-- A cache mutex for a job. -/
def jobMutex : Cached (Memory × Option String) := ⟨.text "job", .int 60, .int 1, .ofPrivate⟩

theorem jobMutex_calm : jobMutex.Calm unreachable (fun s : Memory × Option String => s.1.store) where
  now _ := rfl
  drawToken _ := rfl
  add _ _ _ _ _ := rfl
  noted _ _ := rfl

/-- An acquisition says that it failed, because the cache did, and leaves alone what is stored and the
token of the mutex. And five minutes have an end. -/
theorem failed_of_unreachable :
    let start : Memory × Option String := (.fresh, none)
    let lost : Fault := .simple .connectionLoss none
    let acquired (patience : Nat) :=
      Holding.acquire (jobMutex.handle (unreachable.withPatience patience)) (.int 0) none start
    (∃ tries naps t,
      jobMutex.Ends unreachable (.int 0) .seconds start tries naps (.error lost) t ∧
      ∀ patience, tries ≤ patience →
        (acquired patience).1 = .error (Problem.acquireFailed.causedBy lost) ∧
        Untouched (jobMutex.kept fun s => s.1.store) start naps (acquired patience).2) ∧
      Eternity.mutex.Concludes Eternity.surroundings (.int 5) (some .minutes) (.int 5) .minutes
        Eternity.start := by
  intro start lost acquired
  have hres : Timeout.resolve (.int 0) none = .ok (.int 0, .seconds) := rfl
  have hfive : Timeout.resolve (.int 5) (some .minutes) = .ok (.int 5, .minutes) := rfl
  have hanswer (patience : Nat) :
      (jobMutex.acquire (unreachable.withPatience (patience + 1)) (.int 0) .seconds start).1
        = .error lost := rfl
  refine ⟨?_, (acquisition_outcomes hfive (σ := Eternity)).2.2.2.1.2 ?_ one_pos
    Eternity.advancing _ Eternity.clock_start⟩
  · obtain ⟨tries, naps, outcome, t, hends, hacquired⟩ | hgoes :=
      (acquisition_outcomes hres).2.2.1 unreachable jobMutex start
    · have hfailed : (acquired (tries + 1)).1 = .error (Problem.acquireFailed.causedBy lost) := rfl
      have hraised : outcome = .error lost :=
        ((hacquired (tries + 1) tries.le_succ).outcomes.fails lost rfl).1 hfailed
      subst hraised
      refine ⟨tries, naps, t, hends, fun patience hb => ?_⟩
      have hfailed := ((hacquired patience hb).outcomes.fails lost rfl).2 rfl
      refine ⟨hfailed, (hacquired patience hb).kept (fun h => ?_) _ jobMutex_calm⟩
      cases hfailed.symm.trans h
    · obtain ⟨t, ht⟩ := hgoes.exhausts 1
      have hfaults : lost = Problem.pollLimit.fault :=
        Except.error.inj ((hanswer 0).symm.trans (congrArg Prod.fst ht))
      exact absurd (congrArg Fault.kind hfaults) (by decide)
  · intro seconds hseconds
    obtain ⟨x, q, hx, hfinite⟩ := wholeToSeconds_ok (u := .minutes) (n := 5) hseconds
    cases hx
    rw [before_infinity, hfinite]
    rfl

/-- The double that is no number is accepted as a timeout, and the acquisition has no outcome, although
the clock goes on: the key is taken, and no patience is enough. -/
theorem not_concludes_of_undefined :
    let nan := Value.float Number.undefinedFloat
    Timeout.resolve nan none = .ok (nan, .seconds) ∧ ¬ HasEnd nan .seconds ∧
      Advancing Eternity.surroundings Eternity.mutex Eternity.clock 1 ∧
      ¬ Eternity.mutex.Concludes Eternity.surroundings nan none nan .seconds Eternity.start ∧
      Eternity.mutex.GoesOn Eternity.surroundings nan .seconds Eternity.start := by
  intro nan
  have hgoes : Eternity.mutex.GoesOn Eternity.surroundings nan .seconds Eternity.start :=
    Eternity.starved.goesOn rfl rfl Eternity.start
  refine ⟨rfl, fun hend => ?_, Eternity.advancing, ?_, hgoes⟩
  · cases hend _ rfl
  · rintro ⟨tries, naps, outcome, t, hends, -⟩
    exact hgoes.endless tries naps outcome t hends

end Lock

end TimedLock
