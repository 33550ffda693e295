import TimedLock.Proofs.Holding.Timeouts

/-!
# A release that fails changes no result

**Theorem (`release_failure_adds_warning`).** Take a lock for some work, in any way, in two runs that
differ only in this: in one of them the release of the lock returns, in the other it ends with an
ordinary fault. However the work ends, both runs end alike, with the same result or the same fault;
the work and the handler are called alike; and what is seen of the two runs differs in a single
warning, which the second one writes right after the release.

What is seen of a run is a list of sights, in order (`Sight`). Work and handler go on as if the lock
and the list were not there (`Unaware`): they do not use this lock, and nothing can be done with what
was written to a journal. The lock has a part of the world to itself, which a release that fails may
leave in any state, so that handler and sights are the only ways in which a failed release could show.

The result of the work is kept while the lock is given back (`hold_of_release`). What a call makes of
it then (`Taking.finish`) is told by that result alone.
-/

namespace TimedLock.Holding

/-! ## After the release -/

section Releases

variable {σ : Type} [Journal σ] {lock : Handle σ} {timeout time : Value} {unit : Option TimeUnit}
  {u : TimeUnit} {work : Run σ Value} {handler : Handler σ Value} {outcome : Except Fault Value}
  {s t v w : σ}

/-- What is written about a release that fails. -/
def failedRelease (shown : String) : Entry :=
  ⟨.warning, .holding, s!"Unable to release lock {shown}", true⟩

theorem releaseHandle_of_ok {back : Value} (h : lock.release s = (.ok back, t)) :
    releaseHandle lock s = (.ok (), t) := by
  unfold releaseHandle
  rw [Run.attempt_bind_apply, h]
  rfl

theorem releaseHandle_of_ordinary {fault : Fault} (h : lock.release s = (.error fault, t))
    (hf : fault.isOrdinary = true) :
    releaseHandle lock s = (.ok (), Journal.record (failedRelease (lock.describe t)) t) := by
  unfold releaseHandle
  rw [Run.attempt_bind_apply, h]
  simp only [hf, if_true]
  rfl

/-- Work under a lock ends as it did, if the lock is given back without a fault to show for it. -/
theorem hold_of_release {answer : Except Fault Value}
    (h : Timeout.resolve timeout unit = .ok (time, u))
    (ha : lock.acquire time u s = (answer, t)) (hg : isGrant answer = true)
    (hw : work t = (outcome, v)) (hr : releaseHandle lock v = (.ok (), w)) :
    hold (some lock) timeout unit work s = (outcome, w) := by
  rw [hold_apply work h, Run.bind_ok _ (acquireWithin_of_grant ha hg)]
  exact Run.thenAlways_of_ok hw hr

/-- What a locked call does with how its work under the lock ended. -/
def settle (handler : Option (Handler σ Value)) : Except Fault Value → Run σ Value
  | .ok a => pure a
  | .error fault =>
    match handler with
    | none => .fail fault
    | some handler => if fault.isOrdinary then handler (phaseOf fault) fault else .fail fault

theorem callLocked_of_held (h : Timeout.resolve timeout unit = .ok (time, u))
    (hh : hold (some lock) time (some u) work s = (outcome, w))
    (handler : Option (Handler σ Value)) :
    callLocked (some lock) timeout unit work handler s = settle handler outcome w := by
  cases handler with
  | none =>
    have hnone := (callLocked_none work h).trans hh
    cases outcome <;> exact hnone
  | some handler =>
    refine (callLocked_some work handler h).trans ?_
    cases outcome with
    | ok a => exact Run.recover_of_ok hh
    | error fault =>
      by_cases hf : fault.isOrdinary = true
      · simp only [settle, hf, if_true]
        exact Run.recover_of_caught hh hf
      · simp only [settle, hf, Bool.false_eq_true, if_false]
        exact Run.recover_of_not_caught hh (Bool.eq_false_iff.2 hf)

/-- What comes after the release, given how the work under the lock ended. -/
def Taking.finish (taking : Taking) (handler : Handler σ Value) (outcome : Except Fault Value) :
    Run σ Value :=
  match taking with
  | .alone | .hold => .ofExcept outcome
  | .call keeps handled => do
    let result ← settle (if handled then some handler else none) outcome
    pure (if keeps then result else .null)

/-- A taking for some work comes down to the work under the lock, and what comes after the release. -/
theorem Taking.run_eq_finish {taking : Taking} (hsome : taking ≠ .alone)
    (h : Timeout.resolve timeout unit = .ok (time, u))
    (hheld : ∀ timeout unit, Timeout.resolve timeout unit = .ok (time, u) →
      Holding.hold (some lock) timeout unit work s = (outcome, w)) :
    taking.run lock timeout unit work handler s = taking.finish handler outcome w := by
  cases taking with
  | alone => exact absurd rfl hsome
  | hold => exact hheld timeout unit h
  | call keeps handled =>
    have hcall := callLocked_of_held h (hheld time (some u) (Timeout.resolve_resolve h))
      (if handled then some handler else none)
    simp only [Taking.run, Taking.finish]
    rw [(Call.mk keeps lock timeout unit work).lockedCall_eq]
    unfold Call.afterHandler
    cases keeps with
    | true =>
      simp only [if_true, bind_pure]
      exact hcall
    | false => simp only [Bool.false_eq_true, if_false, Run.bind_apply, hcall]

end Releases

/-! ## What is seen of a run -/

/-- What is seen of a run. -/
inductive Sight
  | noted (entry : Entry)
  | asked (time : Value) (unit : TimeUnit)
  | worked
  | gaveBack
  | handled (phase : Phase) (fault : Fault)

/-- What is written to the journal is seen. -/
instance : Journal (List Sight) := ⟨fun entry sights => sights ++ [.noted entry]⟩

/-- What was seen so far, and a world, a part of which belongs to a lock. -/
abbrev Scene (ρ κ : Type) := List Sight × ρ × κ

section Scenes

variable {ρ κ α : Type}

/-- Lets something be seen. -/
def shows (sight : Sight) : Run (Scene ρ κ) Unit := .change fun w => (w.1 ++ [sight], w.2)

/-- Goes on where nothing is seen. -/
def backstage (x : Run (ρ × κ) α) : Run (Scene ρ κ) α := fun w => ((x w.2).1, w.1, (x w.2).2)

/-- A lock of which it is seen when it is asked, and when it is given back. -/
def onStage (lock : Handle (ρ × κ)) : Handle (Scene ρ κ) where
  acquire time unit := do
    shows (.asked time unit)
    backstage (lock.acquire time unit)
  release := do
    shows .gaveBack
    backstage lock.release
  isHeld := backstage lock.isHeld
  describe w := lock.describe w.2

/-- Something that is seen when it begins. -/
def seen (sight : Sight) (x : Run (Scene ρ κ) α) : Run (Scene ρ κ) α := do
  shows sight
  x

/-- A computation that takes no notice of what was seen, nor of the lock. -/
def Unaware (x : Run (Scene ρ κ) α) : Prop :=
  ∀ r, ∃ outcome added r', ∀ sights k, x (sights, r, k) = (outcome, sights ++ added, r', k)

namespace Unaware

variable {x : Run (Scene ρ κ) α}

theorem seen (hx : Unaware x) (sight : Sight) : Unaware (seen sight x) := by
  intro r
  obtain ⟨outcome, added, r', h⟩ := hx r
  refine ⟨outcome, sight :: added, r', fun sights k => ?_⟩
  show x (sights ++ [sight], r, k) = _
  rw [h, List.append_assoc]
  rfl

theorem ofExcept (outcome : Except Fault α) : Unaware (.ofExcept outcome : Run (Scene ρ κ) α) :=
  fun r => ⟨outcome, [], r, fun sights k => by simp [Run.ofExcept_apply]⟩

theorem map {γ : Type} (hx : Unaware x) (f : α → γ) :
    Unaware (do let a ← x; pure (f a) : Run (Scene ρ κ) γ) := by
  intro r
  obtain ⟨outcome, added, r', h⟩ := hx r
  cases outcome with
  | error fault => exact ⟨.error fault, added, r', fun sights k => Run.bind_error _ (h sights k)⟩
  | ok a => exact ⟨.ok (f a), added, r', fun sights k => Run.bind_ok _ (h sights k)⟩

/-- What comes after the release takes no notice of the lock, if the handler does not. -/
theorem finish {handler : Handler (Scene ρ κ) Value}
    (hh : ∀ phase fault, Unaware (handler phase fault)) (taking : Taking)
    (outcome : Except Fault Value) : Unaware (taking.finish handler outcome) := by
  cases taking with
  | alone => exact ofExcept outcome
  | hold => exact ofExcept outcome
  | call keeps handled =>
    refine Unaware.map (x := settle (if handled then some handler else none) outcome) ?_ _
    cases outcome with
    | ok a => exact ofExcept (.ok a)
    | error fault =>
      cases handled with
      | false => exact ofExcept (.error fault)
      | true =>
        by_cases hf : fault.isOrdinary = true
        · simp only [settle, hf, if_true]
          exact hh _ fault
        · simp only [settle, hf, Bool.false_eq_true, if_false, if_true]
          exact ofExcept (.error fault)

end Unaware

/-- In the world `w` one release returns, and the other one ends with an ordinary fault. What does not
belong to the lock is the same after both. -/
structure OnlyFails (release failing : Run (ρ × κ) Value) (w : ρ × κ) : Prop where
  returns : ∃ back, (release w).1 = .ok back
  fails : ∃ fault, (failing w).1 = .error fault ∧ fault.isOrdinary = true
  rest : (failing w).2.1 = (release w).2.1

/-! ## Two runs -/

variable {lock : Handle (ρ × κ)} {timeout time : Value} {unit : Option TimeUnit} {u : TimeUnit}
  {work : Run (Scene ρ κ) Value} {handler : Handler (Scene ρ κ) Value} {sights before : List Sight}
  {s t v w : ρ × κ} {answer outcome : Except Fault Value}

theorem releaseHandle_onStage_of_ok {back : Value} (h : lock.release v = (.ok back, w)) :
    releaseHandle (onStage lock) (before, v) = (.ok (), before ++ [.gaveBack], w) := by
  have hreleased : (onStage lock).release (before, v) = (.ok back, before ++ [.gaveBack], w) := by
    show ((lock.release v).1, before ++ [.gaveBack], (lock.release v).2) = _
    rw [h]
  exact releaseHandle_of_ok hreleased

theorem releaseHandle_onStage_of_ordinary {fault : Fault} (h : lock.release v = (.error fault, w))
    (hf : fault.isOrdinary = true) :
    releaseHandle (onStage lock) (before, v) = (.ok (),
      before ++ [.gaveBack] ++ [.noted (failedRelease (lock.describe w))], w) := by
  have hreleased : (onStage lock).release (before, v)
      = (.error fault, before ++ [.gaveBack], w) := by
    show ((lock.release v).1, before ++ [.gaveBack], (lock.release v).2) = _
    rw [h]
  exact releaseHandle_of_ordinary hreleased hf

/-- A run up to the end of the release, and what comes after it. -/
theorem run_onStage {taking : Taking} {after : Scene ρ κ} (hsome : taking ≠ .alone)
    (h : Timeout.resolve timeout unit = .ok (time, u)) (ha : lock.acquire time u s = (answer, t))
    (hg : isGrant answer = true)
    (hw : seen .worked work (sights ++ [.asked time u], t) = (outcome, before, v))
    (hr : releaseHandle (onStage lock) (before, v) = (.ok (), after)) :
    taking.run (onStage lock) timeout unit (seen .worked work) handler (sights, s)
      = taking.finish handler outcome after := by
  have hasked : (onStage lock).acquire time u (sights, s)
      = (answer, sights ++ [.asked time u], t) := by
    show ((lock.acquire time u s).1, sights ++ [.asked time u], (lock.acquire time u s).2) = _
    rw [ha]
  exact Taking.run_eq_finish hsome h fun _ _ hres => hold_of_release hres hasked hg hw hr

/-- **A release that fails changes no result**, and is seen in a warning only. -/
theorem release_failure_adds_warning (taking : Taking) (hsome : taking ≠ .alone)
    (hw : Unaware work) (hh : ∀ phase fault, Unaware (handler phase fault))
    (h : Timeout.resolve timeout unit = .ok (time, u)) {s t : ρ × κ} {answer : Except Fault Value}
    (ha : lock.acquire time u s = (answer, t)) (hg : isGrant answer = true)
    {failing : Run (ρ × κ) Value} (hfails : OnlyFails lock.release failing (work ([], t)).2.2)
    (sights : List Sight) :
    let run := fun lock => taking.run (onStage lock) timeout unit (seen .worked work)
      (fun phase fault => seen (.handled phase fault) (handler phase fault)) (sights, s)
    let ran := run lock
    let ran' := run { lock with release := failing }
    ran'.1 = ran.1 ∧ ran'.2.2.1 = ran.2.2.1 ∧
      ∃ before after shown, ran.2.1 = before ++ .gaveBack :: after ∧
        ran'.2.1 = before ++ .gaveBack :: .noted (failedRelease shown) :: after := by
  intro run ran ran'
  obtain ⟨outcome, added, r, hwork⟩ := hw t.1
  have hworked : seen .worked work (sights ++ [.asked time u], t)
      = (outcome, sights ++ [.asked time u] ++ [.worked] ++ added, r, t.2) := hwork _ t.2
  rw [show work ([], t) = (outcome, [] ++ added, r, t.2) from hwork [] t.2] at hfails
  generalize sights ++ [.asked time u] ++ [.worked] ++ added = before at hworked
  obtain ⟨back, hback⟩ := hfails.returns
  obtain ⟨fault, hfault, hordinary⟩ := hfails.fails
  have hreturned : lock.release (r, t.2) = (.ok back, (lock.release (r, t.2)).2) :=
    Prod.ext hback rfl
  have hfailed : failing (r, t.2) = (.error fault, (failing (r, t.2)).2) := Prod.ext hfault rfl
  let finish := taking.finish (fun phase fault => seen (.handled phase fault) (handler phase fault))
    outcome
  have hran : ran = finish (before ++ [.gaveBack], (lock.release (r, t.2)).2) :=
    run_onStage hsome h ha hg hworked (releaseHandle_onStage_of_ok hreturned)
  let shown := lock.describe (failing (r, t.2)).2
  have hran' : ran' = finish
      (before ++ [.gaveBack] ++ [.noted (failedRelease shown)], (failing (r, t.2)).2) :=
    run_onStage hsome h ha hg hworked (releaseHandle_onStage_of_ordinary hfailed hordinary)
  -- From here on both runs do the same, each beside what its release left of the lock.
  obtain ⟨result, after, r', hfinish⟩ :=
    Unaware.finish (fun phase fault => (hh phase fault).seen (.handled phase fault)) taking outcome
      (lock.release (r, t.2)).2.1
  have hend : ran = (result, before ++ [.gaveBack] ++ after, r', (lock.release (r, t.2)).2.2) :=
    hran.trans (hfinish _ _)
  have hend' : ran' = (result, before ++ [.gaveBack] ++ [.noted (failedRelease shown)] ++ after, r',
      (failing (r, t.2)).2.2) := by
    rw [hran', ← hfinish _ (failing (r, t.2)).2.2, ← hfails.rest]
  rw [hend, hend']
  exact ⟨rfl, rfl, before, after, shown, by simp, by simp⟩

end Scenes

/-- A lock that is taken or not, and knows no more of the world. -/
def latch : Handle (Unit × Bool) where
  acquire _ _ := do
    .change fun w => (w.1, true)
    pure (.bool true)
  release := do
    .change fun w => (w.1, false)
    pure .null
  isHeld := .look fun w => .bool w.2
  describe _ := "latch"

/-- An action that ends an iteration ends it also where the lock cannot be given back, and no handler
is told of anything but that. -/
theorem end_of_iteration_stays :
    let stop := Fault.simple .endOfIteration none
    let run := fun lock => (Taking.call true true).run (onStage lock) (.int 1) none
      (seen .worked (.fail stop))
      (fun phase fault => seen (.handled phase fault) (.fail fault)) ([], ((), false))
    let ran := run latch
    let ran' := run { latch with release := .fail (.simple .connectionLoss none) }
    ran.1 = .error stop ∧ ran'.1 = .error stop ∧
      ∃ before after shown, ran.2.1 = before ++ .gaveBack :: after ∧
        ran'.2.1 = before ++ .gaveBack :: .noted (failedRelease shown) :: after := by
  intro stop run ran ran'
  have hunaware (fault : Fault) : Unaware (.fail fault : Run (Scene Unit Bool) Value) :=
    .ofExcept (.error fault)
  have hresolve : Timeout.resolve (.int 1) none = .ok (.int 1, .seconds) := rfl
  have hfails : OnlyFails latch.release (.fail (.simple .connectionLoss none))
      (((.fail stop : Run (Scene Unit Bool) Value) ([], ((), true))).2.2) :=
    ⟨⟨.null, rfl⟩, ⟨_, rfl, rfl⟩, rfl⟩
  have hacquire : latch.acquire (.int 1) .seconds ((), false) = (.ok (.bool true), (), true) := rfl
  obtain ⟨hsame, -, hsights⟩ := release_failure_adds_warning (.call true true) (by simp)
    (hunaware stop) (fun _ => hunaware) hresolve hacquire rfl hfails []
  have hran : ran.1 = .error stop := rfl
  exact ⟨hran, hsame.trans hran, hsights⟩

end TimedLock.Holding
