import TimedLock.Proofs.Lock.ServiceAnswers

/-!
# What a re-entrant mutex asks of its service

The uses of a re-entrant mutex, one by one: what each answers, who owns the mutex after it, and what
the service was asked to do. A use never asks the service for more than one thing.

* A use by the owner that is not its last release stays away from the service (`acquire_of_owner`,
  `release_of_inner`), and so does a release by anyone else (`release_of_stranger`).
* An acquisition by anyone else asks the service at most once, and changes the owner only if the
  service granted it (`acquire_of_stranger`).
* The last release gives the lock back to the service, which may fail. The mutex is free by then
  (`release_of_last`).

What the service is asked to do is written to a list of errands in the world of the mutex, which
nothing that the mutex does depends on.
-/

namespace TimedLock.Lock

/-! ## The service -/

/-- What the service was asked to do, and what it answered. -/
inductive Errand
  | asked (wait : Wait) (answer : Except Fault Value)
  | gaveBack (answer : Except Fault Value)

/-- The answer, where the lock was to be given back. -/
def Errand.returned? : Errand → Option (Except Fault Value)
  | .asked .. => none
  | .gaveBack answer => some answer

namespace Recipe

variable {σ β : Type}

/-- The service with its errands written down. -/
def recorded (recipe : Recipe σ) : Recipe (σ × List Errand) where
  acquire wait := (recipe.acquire wait).logged (.asked wait)
  release := recipe.release.logged .gaveBack
  isGranted := recipe.isGranted.inShared

/-- The same service in a world with a private part. -/
def shared (recipe : Recipe σ) : Recipe (σ × β) where
  acquire wait := (recipe.acquire wait).inShared
  release := recipe.release.inShared
  isGranted := recipe.isGranted.inShared

open Holding in
/-- A service that grants a lock only while it is not granted. `granted` says when it is: from an
acquisition that succeeds, until the lock is given back. -/
structure Exclusive [Journal σ] (recipe : Recipe σ) (granted : σ → Bool) : Prop where
  grants : ∀ wait s, isGrant (recipe.acquire wait s).1 = true →
    granted s = false ∧ granted (recipe.acquire wait s).2 = true
  stays : ∀ wait s, granted s = true → granted (recipe.acquire wait s).2 = true
  noted : ∀ entry s, granted (Journal.record entry s) = granted s

end Recipe

namespace Reentrant

open Holding

/-! ## Uses of a mutex -/

/-- The world of one mutex: everything else, the errands so far, and who owns the mutex. -/
abbrev World (σ : Type) := (σ × List Errand) × Ownership

variable {σ : Type}

/-- The mutex of a path. -/
def ofPath (path : Value) (recipe : Recipe σ) : Reentrant (World σ) :=
  ⟨path, recipe.recorded.shared, .ofPrivate⟩

/-- The world in which nobody has used the mutex. -/
def fresh (s : σ) : World σ := ((s, []), .free)

/-- What the service answered when it was asked to take its lock back. -/
def returns (w : World σ) : List (Except Fault Value) := w.1.2.filterMap Errand.returned?

/-- The world after the service was asked for the lock at most once, given what that came to. The
service may have granted the lock only if it was asked. -/
inductive Asked (recipe : Recipe σ) (granted : σ → Bool) (w : World σ)
    (answer : Except Fault Value) (v : World σ) : Prop
  | never : v.2 = w.2 → v.1.2 = w.1.2 → isGrant answer = false → granted v.1.1 = granted w.1.1 →
      Asked recipe granted w answer v
  | once (wait : Wait) : v.2 = w.2 →
      v.1.2 = w.1.2 ++ [.asked wait (recipe.acquire wait w.1.1).1] →
      isGrant answer = isGrant (recipe.acquire wait w.1.1).1 →
      granted v.1.1 = granted (recipe.acquire wait w.1.1).2 → Asked recipe granted w answer v

variable {path : Value} {me : Thread} {recipe : Recipe σ} {granted : σ → Bool} {w v : World σ}

/-! ## Releases -/

theorem release_of_stranger (ho : w.2.owner ≠ some me) :
    (ofPath path recipe).release me w = (.error (Problem.foreignRelease path).fault, w) := by
  unfold Reentrant.release
  rw [Slot.get_bind_apply]
  exact if_pos ho ▸ rfl

theorem release_of_inner (ho : w.2.owner = some me) (hn : 1 < w.2.holds) :
    (ofPath path recipe).release me w
      = (.ok .null, w.1, { w.2 with holds := w.2.holds - 1 }) := release_again ho hn

/-- The mutex is free before the service is asked to take the lock back, and stays so if that
fails. -/
theorem release_of_last (ho : w.2.owner = some me) (hn : ¬ 1 < w.2.holds) :
    ((ofPath path recipe).release me w).2
      = (((recipe.release w.1.1).2, w.1.2 ++ [.gaveBack (recipe.release w.1.1).1]), .free) := by
  have hrelease :
      (ofPath path recipe).recipe.release ((ofPath path recipe).ownership.write .free w)
        = ((recipe.release w.1.1).1,
          ((recipe.release w.1.1).2, w.1.2 ++ [.gaveBack (recipe.release w.1.1).1]), .free) := rfl
  rw [release_last ho hn hrelease]

theorem isHeld_apply (w : World σ) :
    (ofPath path recipe).isHeld w = (.ok (.bool (0 < w.2.holds)), w) := rfl

/-! ## Acquisitions -/

theorem acquire_of_owner [Journal σ] (ho : w.2.owner = some me) (time : Value) (unit : TimeUnit) :
    (ofPath path recipe).acquire me time unit w
      = (.ok (.bool true), w.1, { w.2 with holds := w.2.holds + 1 }) := acquire_again ho time unit

namespace Asked

variable {answer answer' : Except Fault Value}

theorem ownership_eq (h : Asked recipe granted w answer v) : v.2 = w.2 := by
  cases h with
  | never ho _ _ _ => exact ho
  | once wait ho _ _ _ => exact ho

theorem errands_eq (h : Asked recipe granted w answer v) :
    v.1.2 = w.1.2 ∨ ∃ wait reply, v.1.2 = w.1.2 ++ [.asked wait reply] := by
  cases h with
  | never _ he _ _ => exact .inl he
  | once wait _ he _ _ => exact .inr ⟨wait, _, he⟩

theorem returns_eq (h : Asked recipe granted w answer v) : returns v = returns w := by
  rcases h.errands_eq with he | ⟨wait, reply, he⟩ <;> simp [returns, he, Errand.returned?]

/-- What it came to may be said in another way. -/
theorem congr (h : Asked recipe granted w answer v) (hg : isGrant answer' = isGrant answer) :
    Asked recipe granted w answer' v := by
  cases h with
  | never ho he hn hgr => exact .never ho he (hg.trans hn) hgr
  | once wait ho he ha hgr => exact .once wait ho he (hg.trans ha) hgr

theorem of_service (granted : σ → Bool) (wait : Wait) (w : World σ) :
    ∃ answer v, (recipe.recorded.shared : Recipe (World σ)).acquire wait w = (answer, v) ∧
      Asked recipe granted w answer v :=
  ⟨_, _, rfl, .once wait rfl rfl rfl rfl⟩

variable [Journal σ]

theorem noted (hr : recipe.Exclusive granted) (h : Asked recipe granted w answer v)
    (entry : Entry) : Asked recipe granted w answer (Journal.record entry v) := by
  cases h with
  | never ho he hn hgr => exact .never ho he hn ((hr.noted entry v.1.1).trans hgr)
  | once wait ho he ha hgr => exact .once wait ho he ha ((hr.noted entry v.1.1).trans hgr)

/-- The lock is granted only while it is not. -/
theorem of_grant (hr : recipe.Exclusive granted) (h : Asked recipe granted w answer v)
    (hg : isGrant answer = true) : granted w.1.1 = false ∧ granted v.1.1 = true := by
  cases h with
  | never _ _ hn _ =>
    rw [hn] at hg
    cases hg
  | once wait _ _ ha hgr =>
    obtain ⟨hfree, hgranted⟩ := hr.grants wait w.1.1 (ha.symm.trans hg)
    exact ⟨hfree, hgr.trans hgranted⟩

/-- A lock that is granted is granted to nobody else. -/
theorem not_grant (hr : recipe.Exclusive granted) (h : Asked recipe granted w answer v)
    (hw : granted w.1.1 = true) : isGrant answer = false := by
  refine Bool.eq_false_iff.2 fun hg => ?_
  have hfree := (h.of_grant hr hg).1
  rw [hw] at hfree
  cases hfree

theorem stays (hr : recipe.Exclusive granted) (h : Asked recipe granted w answer v)
    (hw : granted w.1.1 = true) : granted v.1.1 = true := by
  cases h with
  | never _ _ _ hgr => exact hgr.trans hw
  | once wait _ _ _ hgr => exact hgr.trans (hr.stays wait w.1.1 hw)

end Asked

variable [Journal σ]

/-- Asking the service for a time is asking it at most once. -/
theorem acquireWithin_asked (h : recipe.Exclusive granted) (path time : Value) (unit : TimeUnit)
    (w : World σ) :
    ∃ answer v, (recipe.recorded.shared : Recipe (World σ)).acquireWithin path time unit w
      = (answer, v) ∧ Asked recipe granted w answer v := by
  cases hwait : Wait.ofTime time unit with
  | error fault =>
    exact ⟨_, _, Recipe.acquireWithin_of_noWait hwait path w, .never rfl rfl rfl rfl⟩
  | ok wait =>
    have hservice : ∃ answer v, (recipe.recorded.shared : Recipe (World σ)).acquire wait w
        = (answer, v) ∧ Asked recipe granted w answer v := Asked.of_service granted wait w
    obtain ⟨answer, v, hv, hasked⟩ := hservice
    obtain ⟨v', hv', hn⟩ := Recipe.acquireWithin_of_answer hwait path hv
    have hheard := hasked.congr (isGrant_heard answer)
    refine ⟨heard answer, v', hv', ?_⟩
    rcases hn with rfl | ⟨entry, rfl⟩
    · exact hheard
    · exact hheard.noted h entry

theorem acquire_of_stranger (h : recipe.Exclusive granted) (ho : w.2.owner ≠ some me)
    (path time : Value) (unit : TimeUnit) :
    ∃ answer v, Asked recipe granted w answer v ∧ (ofPath path recipe).acquire me time unit w
      = (answer, v.1, if isGrant answer then ⟨some me, 1⟩ else w.2) := by
  obtain ⟨answer, v, hv, hasked⟩ := acquireWithin_asked h path time unit w
  have hask : (ofPath path recipe).recipe.acquireWithin (ofPath path recipe).path time unit w
      = (answer, v.1, w.2) := hv.trans (by rw [← hasked.ownership_eq])
  refine ⟨answer, v, hasked, ?_⟩
  rw [acquire_asking ho hask]
  split <;> rfl

/-! ## Runs -/

/-- A use of the mutex by a thread. -/
inductive Use
  | acquire (me : Thread) (time : Value) (unit : TimeUnit)
  | release (me : Thread)
  | ask (me : Thread)

/-- What a use does. -/
def Use.run {ω : Type} [Journal ω] (lock : Reentrant ω) : Use → Run ω Value
  | .acquire me time unit => lock.acquire me time unit
  | .release me => lock.release me
  | .ask _ => lock.isHeld

/-- A use and its answer. -/
structure Turn where
  use : Use
  answer : Except Fault Value

/-- From one world, some turns lead to another. -/
inductive Runs (lock : Reentrant (World σ)) : List Turn → World σ → World σ → Prop
  | refl (w : World σ) : Runs lock [] w w
  | snoc {turns : List Turn} {w v : World σ} (use : Use) : Runs lock turns w v →
      Runs lock (turns ++ [⟨use, (use.run lock v).1⟩]) w (use.run lock v).2

/-- What a turn can do to a world. -/
inductive Effect (recipe : Recipe σ) (granted : σ → Bool) (w : World σ) : Turn → World σ → Prop
  | asks (me : Thread) (answer : Except Fault Value) :
      Effect recipe granted w ⟨.ask me, answer⟩ w
  | reenters {me : Thread} (time : Value) (unit : TimeUnit) : w.2.owner = some me →
      Effect recipe granted w ⟨.acquire me time unit, .ok (.bool true)⟩
        (w.1, { w.2 with holds := w.2.holds + 1 })
  | asked {me : Thread} (time : Value) (unit : TimeUnit) {answer : Except Fault Value}
      {v : World σ} : w.2.owner ≠ some me → Asked recipe granted w answer v →
      Effect recipe granted w ⟨.acquire me time unit, answer⟩
        (v.1, if isGrant answer then ⟨some me, 1⟩ else w.2)
  | refuses {me : Thread} (answer : Except Fault Value) : w.2.owner ≠ some me →
      Effect recipe granted w ⟨.release me, answer⟩ w
  | unwinds {me : Thread} (answer : Except Fault Value) : w.2.owner = some me → 1 < w.2.holds →
      Effect recipe granted w ⟨.release me, answer⟩ (w.1, { w.2 with holds := w.2.holds - 1 })
  | givesBack {me : Thread} (answer : Except Fault Value) : w.2.owner = some me →
      ¬ 1 < w.2.holds →
      Effect recipe granted w ⟨.release me, answer⟩
        (((recipe.release w.1.1).2, w.1.2 ++ [.gaveBack (recipe.release w.1.1).1]), .free)

/-- **One turn.** -/
theorem Use.effect (h : recipe.Exclusive granted) (path : Value) (use : Use) (w : World σ) :
    Effect recipe granted w ⟨use, (use.run (ofPath path recipe) w).1⟩
      (use.run (ofPath path recipe) w).2 := by
  cases use with
  | ask me => exact .asks me _
  | acquire me time unit =>
    by_cases ho : w.2.owner = some me
    · simp only [Use.run, acquire_of_owner ho]
      exact .reenters time unit ho
    · obtain ⟨answer, v, hasked, hv⟩ := acquire_of_stranger h ho path time unit
      simp only [Use.run, hv]
      exact .asked time unit ho hasked
  | release me =>
    by_cases ho : w.2.owner = some me
    · by_cases hn : 1 < w.2.holds
      · simp only [Use.run, release_of_inner ho hn]
        exact .unwinds _ ho hn
      · simp only [Use.run, release_of_last ho hn]
        exact .givesBack _ ho hn
    · simp only [Use.run, release_of_stranger ho]
      exact .refuses _ ho

end Reentrant

end TimedLock.Lock
