import Mathlib.Data.List.Chain
import TimedLock.Proofs.Lock.ReentrantOwnership
import TimedLock.Proofs.Lock.ServiceAnswers

/-!
# Grants and returns of a single lease alternate

**Theorem (`alternation`).** Take any run of a single-lease mutex, by any threads, over a service that
knows whether it has granted the lock. What the service grants and what it takes back come in turns,
beginning with a grant. Between a grant and the return after it the mutex says that it is held: every
acquisition is answered with a no and kept from the service, and every release goes to the service
(`WhileHeld`), again and again until one succeeds. At all other times a release is refused and kept
from the service (`WhileFree`).

The mutex has no memory of its own. What carries the proof is that the last change among the errands
tells the same as the service (`Told`).
-/

namespace TimedLock.Lock

open Holding

/-- A service whose lock is granted from an acquisition that succeeds to a release that does not fail,
and that tells whether it is. -/
structure Recipe.Flagged {σ : Type} [Journal σ] (recipe : Recipe σ) (granted : σ → Bool) : Prop where
  tells : ∀ s, ∃ v, recipe.isGranted s = (.ok v, s) ∧ v.isTruthy = granted s
  acquire : ∀ wait s, granted (recipe.acquire wait s).2
    = (isGrant (recipe.acquire wait s).1 || granted s)
  release : ∀ s, granted (recipe.release s).2 = (granted s && !(recipe.release s).1.isOk)
  noted : ∀ entry s, granted (Journal.record entry s) = granted s

/-- Whether the lock is granted after an errand, where the errand changed that. -/
def Errand.change? : Errand → Option Bool
  | .asked _ answer => if isGrant answer then some true else none
  | .gaveBack answer => if answer.isOk then some false else none

namespace Lease

open Reentrant (Use)

/-! ## What is to be shown -/

variable {σ : Type}

/-- The mutex of a path, with the errands to its service written down. -/
def ofPath (path : Value) (recipe : Recipe σ) : Lease (σ × List Errand) := ⟨path, recipe.recorded⟩

/-- What a use does. The thread makes no difference. -/
def perform {ω : Type} [Journal ω] (lock : Lease ω) : Use → Run ω Value
  | .acquire _ time unit => lock.acquire time unit
  | .release _ => lock.release
  | .ask _ => lock.isHeld

/-- The grants and the returns so far. -/
def changes (w : σ × List Errand) : List Bool := w.2.filterMap Errand.change?

/-- Grants and returns that come in turns, beginning with a grant. -/
structure InTurns (changes : List Bool) : Prop where
  alternate : changes.IsChain (· ≠ ·)
  first : ∀ c ∈ changes.head?, c = true

/-- What any thread finds while the lock is granted. -/
structure WhileHeld [Journal σ] (lock : Lease (σ × List Errand)) (w : σ × List Errand) : Prop where
  isHeld : ∀ me, lock.perform (.ask me) w = (.ok (.bool true), w)
  /-- The service is not asked. -/
  shutsOut : ∀ me time unit, ∃ t, lock.perform (.acquire me time unit) w = (.ok (.bool false), t, w.2)
  /-- The service is asked once. -/
  givesBack : ∀ me, ∃ answer t, lock.perform (.release me) w
    = (answer.map fun _ => .null, t, w.2 ++ [.gaveBack answer])

/-- What any thread finds while it is not. -/
structure WhileFree [Journal σ] (lock : Lease (σ × List Errand)) (w : σ × List Errand) : Prop where
  isHeld : ∀ me, lock.perform (.ask me) w = (.ok (.bool false), w)
  refuses : ∀ me, lock.perform (.release me) w
    = (.error (Problem.leaseNotHeld lock.path).fault, w)

/-! ## One errand more -/

/-- The errands tell whether the lock is granted. -/
structure Told (granted : σ → Bool) (w : σ × List Errand) : Prop where
  inTurns : InTurns (changes w)
  last : (changes w).getLast? = some true ↔ granted w.1 = true

variable {recipe : Recipe σ} {granted : σ → Bool} {w v : σ × List Errand} {path : Value}

theorem changes_append_of_some {errand : Errand} {c : Bool} (h : v.2 = w.2 ++ [errand])
    (hc : errand.change? = some c) : changes v = changes w ++ [c] := by
  simp [changes, h, hc]

theorem changes_append_of_none {errand : Errand} (h : v.2 = w.2 ++ [errand])
    (hc : errand.change? = none) : changes v = changes w := by
  simp [changes, h, hc]

namespace Told

theorem fresh {s : σ} (hs : granted s = false) : Told granted (s, []) where
  inTurns := ⟨.nil, nofun⟩
  last := by simp [changes, hs]

theorem congr (hw : Told granted w) (hc : changes v = changes w) (hg : granted v.1 = granted w.1) :
    Told granted v where
  inTurns := hc ▸ hw.inTurns
  last := by rw [hc, hg, hw.last]

/-- A change follows one that went the other way. -/
theorem change (hw : Told granted w) {c : Bool} (hc : changes v = changes w ++ [c])
    (hbefore : granted w.1 = !c) (hafter : granted v.1 = c) : Told granted v where
  inTurns := by
    -- Only the first change has none before it, and nothing is granted then.
    rcases hlast : (changes w).getLast? with _ | b
    · have hnil : changes w = [] := List.getLast?_eq_none_iff.1 hlast
      have hfree : granted w.1 = false := by simpa [hlast] using hw.last
      rw [hc, hnil]
      refine ⟨.singleton c, ?_⟩
      simpa [hfree] using hbefore
    · have hb : b = granted w.1 := by
        have h := hw.last
        rw [hlast] at h
        simpa using h
      have hne : changes w ≠ [] := by
        intro hnil
        simp [hnil] at hlast
      rw [hc]
      refine ⟨List.isChain_append.2 ⟨hw.inTurns.alternate, .singleton c, ?_⟩, ?_⟩
      · simp [hlast, hb, hbefore]
      · rw [List.head?_append_of_ne_nil _ hne]
        exact hw.inTurns.first
  last := by simp [hc, hafter]

end Told

/-! ## One use -/

section Uses

variable [Journal σ]

theorem ofPath_isGranted (h : recipe.Flagged granted) (path : Value) (w : σ × List Errand) :
    ∃ v, (ofPath path recipe).recipe.isGranted w = (.ok v, w) ∧ v.isTruthy = granted w.1 := by
  obtain ⟨v, hv, ht⟩ := h.tells w.1
  exact ⟨v, Run.inShared_of hv w.2, ht⟩

theorem isHeld_apply (h : recipe.Flagged granted) (path : Value) (w : σ × List Errand) :
    (ofPath path recipe).isHeld w = (.ok (.bool (granted w.1)), w) := by
  obtain ⟨v, hv, ht⟩ := ofPath_isGranted h path w
  rw [isHeld_of_readable hv, ht]

theorem acquire_of_held (h : recipe.Flagged granted) (path : Value) (hw : granted w.1 = true)
    (time : Value) (unit : TimeUnit) :
    ∃ v, (ofPath path recipe).acquire time unit w = (.ok (.bool false), v) ∧ Noted w v := by
  obtain ⟨v, hv, ht⟩ := ofPath_isGranted h path w
  exact acquire_of_granted hv (ht.trans hw) time unit

/-- Asking the service for the lock takes no errand, or one. -/
theorem acquire_of_free (h : recipe.Flagged granted) (path : Value) (hw : granted w.1 = false)
    (time : Value) (unit : TimeUnit) :
    (∃ fault, (ofPath path recipe).acquire time unit w = (.error fault, w)) ∨
      ∃ wait answer v, (ofPath path recipe).acquire time unit w = (answer, v) ∧
        Noted ((recipe.acquire wait w.1).2, w.2 ++ [.asked wait (recipe.acquire wait w.1).1]) v := by
  obtain ⟨v, hv, ht⟩ := ofPath_isGranted h path w
  rw [acquire_asking hv (ht.trans hw)]
  cases hwait : Wait.ofTime time unit with
  | error fault => exact .inl ⟨fault, Recipe.acquireWithin_of_noWait hwait _ w⟩
  | ok wait =>
    have hanswer : (ofPath path recipe).recipe.acquire wait w = ((recipe.acquire wait w.1).1,
        (recipe.acquire wait w.1).2, w.2 ++ [.asked wait (recipe.acquire wait w.1).1]) := rfl
    obtain ⟨u, hu, hn⟩ := Recipe.acquireWithin_of_answer hwait (ofPath path recipe).path hanswer
    exact .inr ⟨wait, _, u, hu, hn⟩

theorem release_of_held (h : recipe.Flagged granted) (path : Value) (hw : granted w.1 = true) :
    (ofPath path recipe).release w = ((recipe.release w.1).1.map fun _ => .null,
      (recipe.release w.1).2, w.2 ++ [.gaveBack (recipe.release w.1).1]) := by
  obtain ⟨v, hv, ht⟩ := ofPath_isGranted h path w
  have hanswer : (ofPath path recipe).recipe.release w = ((recipe.release w.1).1,
      (recipe.release w.1).2, w.2 ++ [.gaveBack (recipe.release w.1).1]) := rfl
  exact release_asking hv (ht.trans hw) hanswer

theorem release_of_not_held (h : recipe.Flagged granted) (path : Value)
    (hw : granted w.1 = false) :
    (ofPath path recipe).release w = (.error (Problem.leaseNotHeld path).fault, w) := by
  obtain ⟨v, hv, ht⟩ := ofPath_isGranted h path w
  exact release_of_free hv (ht.trans hw)

/-- An entry of the journal changes nothing that is told. -/
theorem Told.noted (h : recipe.Flagged granted) (hw : Told granted w) (hn : Noted w v) :
    Told granted v :=
  hw.congr (congrArg (·.filterMap Errand.change?) hn.private_eq) (hn.shared.eq_of granted h.noted)

/-- **One use.** -/
theorem Told.use (h : recipe.Flagged granted) (path : Value) (hw : Told granted w) (use : Use) :
    Told granted ((ofPath path recipe).perform use w).2 := by
  cases use with
  | ask me => simpa only [perform, isHeld_apply h] using hw
  | acquire me time unit =>
    rw [perform]
    cases hg : granted w.1 with
    | true =>
      obtain ⟨v, hv, hn⟩ := acquire_of_held h path hg time unit
      rw [hv]
      exact hw.noted h hn
    | false =>
      obtain ⟨fault, hv⟩ | ⟨wait, answer, v, hv, hn⟩ := acquire_of_free h path hg time unit
      · rw [hv]
        exact hw
      · rw [hv]
        refine Told.noted h ?_ hn
        have hafter := h.acquire wait w.1
        rw [hg, Bool.or_false] at hafter
        cases ha : isGrant (recipe.acquire wait w.1).1 with
        | true =>
          have hchange : (Errand.asked wait (recipe.acquire wait w.1).1).change? = some true :=
            if_pos ha
          exact hw.change (changes_append_of_some rfl hchange) hg (hafter.trans ha)
        | false =>
          have hchange : (Errand.asked wait (recipe.acquire wait w.1).1).change? = none :=
            if_neg (Bool.eq_false_iff.1 ha)
          exact hw.congr (changes_append_of_none rfl hchange) ((hafter.trans ha).trans hg.symm)
  | release me =>
    rw [perform]
    cases hg : granted w.1 with
    | false =>
      rw [release_of_not_held h path hg]
      exact hw
    | true =>
      rw [release_of_held h path hg]
      have hafter := h.release w.1
      rw [hg, Bool.true_and] at hafter
      cases hr : (recipe.release w.1).1.isOk with
      | true =>
        have hchange : (Errand.gaveBack (recipe.release w.1).1).change? = some false := if_pos hr
        rw [hr] at hafter
        exact hw.change (changes_append_of_some rfl hchange) hg hafter
      | false =>
        have hchange : (Errand.gaveBack (recipe.release w.1).1).change? = none :=
          if_neg (Bool.eq_false_iff.1 hr)
        rw [hr] at hafter
        exact hw.congr (changes_append_of_none rfl hchange) (hafter.trans hg.symm)

/-! ## Whole runs -/

theorem whileHeld (h : recipe.Flagged granted) (path : Value) (hw : granted w.1 = true) :
    WhileHeld (ofPath path recipe) w where
  isHeld _ := by rw [perform, isHeld_apply h, hw]
  shutsOut _ time unit := by
    obtain ⟨v, hv, hn⟩ := acquire_of_held h path hw time unit
    exact ⟨v.1, by rw [perform, hv, ← hn.private_eq]⟩
  givesBack _ := ⟨_, _, release_of_held h path hw⟩

theorem whileFree (h : recipe.Flagged granted) (path : Value) (hw : granted w.1 = false) :
    WhileFree (ofPath path recipe) w where
  isHeld _ := by rw [perform, isHeld_apply h, hw]
  refuses _ := release_of_not_held h path hw

/-- A release that fails leaves the lock granted. -/
theorem granted_of_failed_release (h : recipe.Flagged granted) (path : Value)
    (hw : granted w.1 = true) (hfail : ((ofPath path recipe).release w).1.isOk = false) :
    granted ((ofPath path recipe).release w).2.1 = true := by
  rw [release_of_held h path hw] at hfail ⊢
  have hanswer : (recipe.release w.1).1.isOk = false := by
    revert hfail
    cases (recipe.release w.1).1 <;> exact id
  rw [h.release, hw, hanswer]
  rfl

/-- **Grants and returns alternate.** After every run of the mutex of a lock that was not granted
before, what the service granted and took back so far came in turns, beginning with a grant. If the
last of it was a grant, every thread finds the mutex held, and finds it held again after a release
that failed; otherwise every thread finds it free. -/
theorem alternation (h : recipe.Flagged granted) (path : Value) {s : σ} (hs : granted s = false)
    {past : List (Use × Except Fault Value)} (hv : Trail (ofPath path recipe).perform past (s, []) v) :
    InTurns (changes v) ∧
      ((changes v).getLast? = some true →
        WhileHeld (ofPath path recipe) v ∧
          ∀ me, ((ofPath path recipe).perform (.release me) v).1.isOk = false →
            WhileHeld (ofPath path recipe) ((ofPath path recipe).perform (.release me) v).2) ∧
      ((changes v).getLast? ≠ some true → WhileFree (ofPath path recipe) v) := by
  have htold : Told granted v := hv.keeps (.fresh hs) fun w use hw => hw.use h path use
  refine ⟨htold.inTurns, fun hlast => ?_, fun hlast => ?_⟩
  · have hg := htold.last.1 hlast
    refine ⟨whileHeld h path hg, fun me hfail => ?_⟩
    exact whileHeld h path (granted_of_failed_release h path hg hfail)
  · exact whileFree h path (Bool.eq_false_iff.2 fun hg => hlast (htold.last.2 hg))

/-! ## A service that loses its connection -/

open Reentrant (memoryService)

theorem memoryService_flagged (answer : Except Fault Value) :
    (memoryService answer).Flagged Prod.snd where
  tells s := ⟨_, rfl, rfl⟩
  acquire wait s := by rcases s with ⟨entries, _ | _⟩ <;> rfl
  release s := rfl
  noted entry s := rfl

/-- One thread obtains the mutex and another one fails to give it back, because the service has lost
its connection. The mutex is held, and its next release goes to the service again. -/
theorem whileHeld_of_lost_connection :
    let lock := ofPath (.text "/locks/a") (memoryService (.error (.simple .connectionLoss none)))
    let held := (lock.perform (.acquire "main" (.int 1) .seconds) (([], false), [])).2
    WhileHeld lock (lock.perform (.release "worker") held).2 := by
  have h := alternation (memoryService_flagged (.error (.simple .connectionLoss none)))
    (.text "/locks/a") (s := ([], false)) rfl
    (.snoc (.acquire "main" (.int 1) .seconds) (.refl _))
  exact (h.2.1 rfl).2 "worker" rfl

end Uses

end Lease

end TimedLock.Lock
