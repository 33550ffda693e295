import TimedLock.Proofs.Lock.ReentrantOwnership

/-!
# Locks that a mutex loses

A re-entrant mutex and its service both know whether the lock is held.

**Theorem (`inStep_iff`).** After any run of a mutex that was fresh when its service had granted
nothing, the two agree exactly if the service took the lock back each time it was asked to. One
failure is enough, and it is for good (`stranded`): the mutex is free before it asks, so the lock
stays granted and no thread owns the mutex. Nobody can give the lock back then, and nobody can obtain
it.

There are three kinds of world that a run can lead to (`Standing`), and every turn leads from one of
them to another.
-/

namespace TimedLock.Lock

open Holding

/-- A service whose lock is granted by an acquisition that succeeds and by nothing else, and is no
longer granted once it was given back, unless that failed. -/
structure Recipe.Faithful {σ : Type} [Journal σ] (recipe : Recipe σ) (granted : σ → Bool) : Prop
    extends recipe.Exclusive granted where
  declines : ∀ wait s, isGrant (recipe.acquire wait s).1 = false → granted s = false →
    granted (recipe.acquire wait s).2 = false
  clears : ∀ s, (recipe.release s).1.isOk = true → granted (recipe.release s).2 = false
  keeps : ∀ s, (recipe.release s).1.isOk = false → granted (recipe.release s).2 = granted s

namespace Reentrant

variable {σ : Type}

/-- The mutex says that it is held, by count and by owner, exactly while the lock is granted. -/
def InStep (granted : σ → Bool) (w : World σ) : Prop :=
  (0 < w.2.holds ↔ granted w.1.1 = true) ∧ (w.2.owner ≠ none ↔ granted w.1.1 = true)

/-- Whether the service took its lock back each time it was asked to. -/
def TookBack (w : World σ) : Prop := ∀ answer ∈ returns w, answer.isOk = true

/-- How a mutex and its service stand to each other. -/
inductive Standing (granted : σ → Bool) (w : World σ) : Prop
  | free : w.2 = .free → granted w.1.1 = false → TookBack w → Standing granted w
  | held (t : Thread) (n : Nat) : HeldBy granted t n w → TookBack w → Standing granted w
  | stranded : w.2 = .free → granted w.1.1 = true → ¬ TookBack w → Standing granted w

variable {recipe : Recipe σ} {granted : σ → Bool} {w v : World σ} {now : Turn}

/-! ## One turn -/

theorem TookBack.congr (hw : TookBack w) (h : returns v = returns w) : TookBack v := by
  unfold TookBack
  rwa [h]

/-- Where nobody owns the mutex, all that a turn can do is to ask the service. -/
theorem Effect.of_free (he : Effect recipe granted w now v) (hw : w.2 = .free) :
    v = w ∨ ∃ me answer u, Asked recipe granted w answer u ∧
      v = (u.1, if isGrant answer then ⟨some me, 1⟩ else .free) := by
  have hnone (me : Thread) : w.2.owner ≠ some me := by simp [hw, Ownership.free]
  cases he with
  | asks me answer => exact .inl rfl
  | reenters time unit ho => exact absurd ho (hnone _)
  | asked time unit ho hasked => exact .inr ⟨_, _, _, hasked, by rw [hw]⟩
  | refuses answer ho => exact .inl rfl
  | unwinds answer ho hn => exact absurd ho (hnone _)
  | givesBack answer ho hn => exact absurd ho (hnone _)

/-- The last release of an owner gives the lock back. -/
theorem Effect.of_last {t : Thread} {n : Nat} (he : Effect recipe granted w now v)
    (hw : HeldBy granted t n w) (hrel : now.isReleaseBy t = true) (hn : ¬ 1 < n) :
    v = (((recipe.release w.1.1).2, w.1.2 ++ [.gaveBack (recipe.release w.1.1).1]), .free) := by
  cases he with
  | asks me answer => cases hrel
  | reenters time unit ho => cases hrel
  | asked time unit ho hasked => cases hrel
  | @refuses me answer ho => exact absurd ((hw.owner_iff me).2 (of_decide_eq_true hrel)) ho
  | unwinds answer ho hn' => exact absurd (hw.holds_eq ▸ hn') hn
  | givesBack answer ho hn => rfl

variable [Journal σ]

theorem Asked.of_decline {answer : Except Fault Value} (h : recipe.Faithful granted)
    (hasked : Asked recipe granted w answer v) (hn : isGrant answer = false)
    (hw : granted w.1.1 = false) : granted v.1.1 = false := by
  cases hasked with
  | never _ _ _ hgr => exact hgr.trans hw
  | once wait _ _ ha hgr => exact hgr.trans (h.declines wait w.1.1 (ha.symm.trans hn) hw)

/-- Giving the lock back ends a hold, or strands the lock. -/
theorem HeldBy.giveBack {t : Thread} {n : Nat} (h : recipe.Faithful granted)
    (hw : HeldBy granted t n w) (ht : TookBack w) :
    Standing granted
      (((recipe.release w.1.1).2, w.1.2 ++ [.gaveBack (recipe.release w.1.1).1]), .free) := by
  cases hok : (recipe.release w.1.1).1.isOk with
  | true =>
    refine .free rfl (h.clears _ hok) ?_
    simp only [TookBack, returns, List.filterMap_append, List.mem_append] at ht ⊢
    rintro answer (hm | hm)
    · exact ht answer hm
    · obtain rfl : answer = _ := List.mem_singleton.1 hm
      exact hok
  | false =>
    refine .stranded rfl ((h.keeps _ hok).trans hw.isGranted) fun htook => ?_
    have hlast := htook (recipe.release w.1.1).1 (by simp [returns, Errand.returned?])
    rw [hok] at hlast
    cases hlast

/-- **One turn** leads from one of the three kinds of world to another. -/
theorem Standing.turn (h : recipe.Faithful granted) (hw : Standing granted w)
    (he : Effect recipe granted w now v) : Standing granted v := by
  cases hw with
  | free hf hg ht =>
    obtain rfl | ⟨me, answer, u, hasked, rfl⟩ := he.of_free hf
    · exact .free hf hg ht
    · have htook : TookBack (u.1, if isGrant answer then (⟨some me, 1⟩ : Ownership) else .free) :=
        ht.congr hasked.returns_eq
      cases hgrant : isGrant answer with
      | true =>
        rw [hgrant] at htook
        exact .held me 1 ⟨rfl, Nat.one_pos, (hasked.of_grant h.toExclusive hgrant).2⟩ htook
      | false =>
        have hfree := hasked.of_decline h hgrant hg
        rw [hgrant] at htook
        exact .free rfl hfree htook
  | held t n hh ht =>
    by_cases hlast : now.isReleaseBy t = true → 1 < n
    · obtain ⟨m, hm, -, hreturns⟩ := hh.turn h.toExclusive he hlast
      exact .held t m hm (ht.congr hreturns)
    · obtain ⟨hrel, hn⟩ := Classical.not_imp.1 hlast
      rw [he.of_last hh hrel hn]
      exact hh.giveBack h ht
  | stranded hf hg ht =>
    obtain rfl | ⟨me, answer, u, hasked, rfl⟩ := he.of_free hf
    · exact .stranded hf hg ht
    · have hstays := hasked.stays h.toExclusive hg
      rw [hasked.not_grant h.toExclusive hg]
      exact .stranded rfl hstays
        fun htook => ht (htook.congr hasked.returns_eq.symm)

/-! ## Whole runs -/

variable {turns : List Turn} {path : Value} {s : σ}

theorem Standing.runs (h : recipe.Faithful granted) (hr : Runs (ofPath path recipe) turns w v)
    (hw : Standing granted w) : Standing granted v := by
  induction hr with
  | refl w => exact hw
  | snoc use hr ih => exact (ih hw).turn h (use.effect h.toExclusive path _)

omit [Journal σ] in
theorem Standing.fresh (hs : granted s = false) : Standing granted (fresh s) := .free rfl hs nofun

omit [Journal σ] in
theorem Standing.inStep_iff_tookBack (hw : Standing granted w) :
    InStep granted w ↔ TookBack w := by
  cases hw with
  | free hf hg ht => exact iff_of_true (by simp [InStep, hf, hg, Ownership.free]) ht
  | held t n hh ht =>
    have hpos := hh.pos
    refine iff_of_true ?_ ht
    simp [InStep, hh.ownership, hh.isGranted, hpos]
  | stranded hf hg ht => exact iff_of_false (by simp [InStep, hf, hg, Ownership.free]) ht

/-- **When a mutex and its service agree**: exactly if each time that the last release of an owner
asked the service to take its lock back, the service did. -/
theorem inStep_iff (h : recipe.Faithful granted) (path : Value) (hs : granted s = false)
    (hv : Runs (ofPath path recipe) turns (fresh s) v) : InStep granted v ↔ TookBack v :=
  ((Standing.fresh hs).runs h hv).inStep_iff_tookBack

/-- **A lock is lost for good.** Once the service failed to take its lock back, no thread obtains the
mutex and none can release it, so nothing asks the service again to take the lock back. -/
theorem stranded (h : recipe.Faithful granted) (path : Value) (hs : granted s = false)
    (hv : Runs (ofPath path recipe) turns (fresh s) v) (hlost : ¬ TookBack v) :
    (∀ t time unit, isGrant ((ofPath path recipe).acquire t time unit v).1 = false) ∧
      ∀ t, (ofPath path recipe).release t v = (.error (Problem.foreignRelease path).fault, v) := by
  cases (Standing.fresh hs).runs h hv with
  | free hf hg ht => exact absurd ht hlost
  | held t n hh ht => exact absurd ht hlost
  | stranded hf hg ht =>
    have hnone (t : Thread) : v.2.owner ≠ some t := by simp [hf, Ownership.free]
    refine ⟨fun t time unit => ?_, fun t => release_of_stranger (hnone t)⟩
    obtain ⟨answer, u, hasked, hu⟩ := acquire_of_stranger h.toExclusive (hnone t) path time unit
    rw [hu]
    exact hasked.not_grant h.toExclusive hg

/-! ## The service in memory -/

theorem memoryService_faithful (answer : Except Fault Value) :
    (memoryService answer).Faithful Prod.snd where
  toExclusive := memoryService_exclusive answer
  declines wait s hn hs := by
    rcases s with ⟨entries, _ | _⟩
    · cases hn
    · cases hs
  clears s hok := by
    have hanswer : answer.isOk = true := hok
    simp [memoryService, hanswer]
  keeps s hok := by
    have hanswer : answer.isOk = false := hok
    simp [memoryService, hanswer]

/-- A hold that the service takes back leaves the two in step. -/
theorem inStep_of_return :
    let lock := memoryMutex (.ok .null)
    InStep Prod.snd
      (lock.release "main" (lock.acquire "main" (.int 1) .seconds (fresh ([], false))).2).2 := by
  refine (inStep_iff (memoryService_faithful (.ok .null)) (.text "/locks/a") rfl
    (.snoc (.release "main") (.snoc (.acquire "main" (.int 1) .seconds) (.refl _)))).2 ?_
  intro answer hanswer
  obtain rfl := List.mem_singleton.1 hanswer
  rfl

/-- A service that loses its connection when it is to take its lock back is enough to get a mutex
out of step: it is free while its lock is granted. -/
theorem not_inStep_of_failed_return :
    ¬ ∀ (recipe : Recipe (List Entry × Bool)) (granted : List Entry × Bool → Bool),
      recipe.Faithful granted → ∀ path s, granted s = false → ∀ turns v,
        Runs (ofPath path recipe) turns (fresh s) v → InStep granted v := by
  intro h
  have hstep := h _ _ (memoryService_faithful (.error (.simple .connectionLoss none)))
    (.text "/locks/a") ([], false) rfl _ _
    (.snoc (.release "main") (.snoc (.acquire "main" (.int 1) .seconds) (.refl _)))
  exact absurd (hstep.1.2 rfl) (by decide)

end Reentrant

end TimedLock.Lock
