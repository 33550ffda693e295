import TimedLock.Proofs.Agreement
import TimedLock.Proofs.Lock.ReleaseRetry
import TimedLock.Proofs.Lock.ServiceAnswers

/-!
# Giving a lock back if it is held

**Theorem (`conditional_release`).** A lock that is given back if this process holds it is asked
first whether it does, and given back once if the answer counts as true, and not at all otherwise.
An ordinary fault of the release goes no further, but one that the lock answers the question with
gets out. So a re-entrant mutex lets no ordinary fault out, a single-lease mutex lets one out just
if the service does not tell whether the lease is granted, and a cache mutex just if it has a token
and the cache cannot be read.

This holds in every world, on every thread, and whatever the lock answers. What the lock is asked is
written down, which changes nothing. There are three ways in which it can go (`Parted`), and
everything else is read off these.
-/

namespace TimedLock

namespace Holding

/-! ## What is asked of the lock -/

/-- What a conditional release asks of its lock, with the answer. -/
inductive Request
  | held (answer : Except Fault Value)
  | release (answer : Except Fault Value)

variable {σ : Type}

/-- A lock where this is written down. -/
def requested (lock : Handle σ) : Handle (σ × List Request) where
  acquire time unit := (lock.acquire time unit).inShared
  release := lock.release.logged .release
  isHeld := lock.isHeld.logged .held
  describe w := lock.describe w.1

theorem requested_agree (lock : Handle σ) : Handle.Agree Run.Shares (requested lock) lock where
  acquire _ _ := .inShared _
  release := .logged _ _
  isHeld := .logged _ _
  describe _ _ h := congrArg lock.describe h

variable [Journal σ]

/-- Writing down what is asked changes nothing. -/
theorem releaseIfHeld_eq_requested (lock : Handle σ) (s : σ) :
    let ran := releaseIfHeld (some (requested lock)) (s, [])
    releaseIfHeld (some lock) s = (ran.1, ran.2.1) := by
  obtain ⟨houtcome, hworld⟩ :=
    releaseIfHeld_agree Run.Shares.journaled (requested_agree lock) (s, []) s rfl
  exact Prod.ext houtcome.symm hworld.symm

/-! ## How it ends -/

section Ways

variable {lock : Handle σ} {s t : σ} {v : Value} {fault : Fault}

theorem releaseIfHeld_of_unanswered (h : lock.isHeld s = (.error fault, t)) :
    releaseIfHeld (some lock) s = (.error fault, t) := Run.bind_error _ h

theorem releaseIfHeld_of_free (h : lock.isHeld s = (.ok v, t)) (hv : v.isTruthy = false) :
    ∃ u, releaseIfHeld (some lock) s = (.ok (), u) ∧ Noted t u := by
  simp only [releaseIfHeld]
  rw [Run.bind_ok _ h, Run.look_bind_apply, if_neg (Bool.eq_false_iff.1 hv)]
  exact ⟨_, rfl, .record _ _⟩

theorem releaseIfHeld_of_held (h : lock.isHeld s = (.ok v, t)) (hv : v.isTruthy = true) :
    ∃ u, releaseIfHeld (some lock) s = releaseHandle lock u ∧ Noted t u := by
  simp only [releaseIfHeld]
  rw [Run.bind_ok _ h, Run.look_bind_apply, if_pos hv, Run.note_bind_apply]
  exact ⟨_, rfl, .record _ _⟩

end Ways

/-- How a conditional release from the world `s` ends, and what it asks. -/
inductive Parted (lock : Handle σ) (s : σ) : Except Fault Unit → List Request → Prop
  | unanswered {fault : Fault} : (lock.isHeld s).1 = .error fault →
      Parted lock s (.error fault) [.held (.error fault)]
  | kept {v : Value} : (lock.isHeld s).1 = .ok v → v.isTruthy = false →
      Parted lock s (.ok ()) [.held (.ok v)]
  | released {v : Value} {t : σ} : (lock.isHeld s).1 = .ok v → v.isTruthy = true →
      Noted (lock.isHeld s).2 t →
      Parted lock s (afterRelease (.ok ()) (lock.release t).1)
        [.held (.ok v), .release (lock.release t).1]

theorem parted (lock : Handle σ) (s : σ) :
    let ran := releaseIfHeld (some (requested lock)) (s, [])
    Parted lock s ran.1 ran.2.2 := by
  intro ran
  have hasked : (requested lock).isHeld (s, [])
      = ((lock.isHeld s).1, (lock.isHeld s).2, [.held (lock.isHeld s).1]) := rfl
  cases hheld : (lock.isHeld s).1 with
  | error fault =>
    rw [hheld] at hasked
    have hran : ran = _ := releaseIfHeld_of_unanswered hasked
    rw [hran]
    exact .unanswered hheld
  | ok v =>
    rw [hheld] at hasked
    cases hv : v.isTruthy with
    | false =>
      obtain ⟨u, hu, hn⟩ := releaseIfHeld_of_free hasked hv
      have hran : ran = _ := hu
      rw [hran, hn.private_eq]
      exact .kept hheld hv
    | true =>
      obtain ⟨⟨t, requests⟩, hu, hn⟩ := releaseIfHeld_of_held hasked hv
      obtain rfl : requests = [.held (.ok v)] := hn.private_eq
      have hback : (requested lock).release (t, [.held (.ok v)])
          = ((lock.release t).1, (lock.release t).2,
              [.held (.ok v), .release (lock.release t).1]) := rfl
      obtain ⟨w, hw, hn'⟩ := releaseHandle_apply hback
      have hran : ran = _ := hu.trans hw
      rw [hran, hn'.private_eq]
      exact .released hheld hv hn.shared

/-- What is to be shown of a conditional release from the world `s`, which ended with `outcome` and
asked for `requests`. -/
structure Conditional (lock : Handle σ) (s : σ) (outcome : Except Fault Unit)
    (requests : List Request) : Prop where
  /-- It returns if the question was answered and the release, if there was one, raised nothing but
  an ordinary fault. -/
  returns : outcome = .ok () ↔
    (∃ v, (lock.isHeld s).1 = .ok v) ∧ ∀ back, .release back ∈ requests → isLoud back = false
  letsOut : ∀ fault, fault.isOrdinary = true →
    (outcome = .error fault ↔ (lock.isHeld s).1 = .error fault)
  /-- The lock is given back if it is held. -/
  releases : (∃ back, .release back ∈ requests) ↔
    ∃ v, (lock.isHeld s).1 = .ok v ∧ v.isTruthy = true
  /-- It is given back once, after the answer that it is held. -/
  once : ∀ back, .release back ∈ requests →
    ∃ v, v.isTruthy = true ∧ requests = [.held (.ok v), .release back]

namespace Parted

variable {lock : Handle σ} {s : σ} {outcome : Except Fault Unit} {requests : List Request}

theorem afterRelease_eq_ok_iff {back : Except Fault Value} :
    afterRelease (.ok ()) back = .ok () ↔ isLoud back = false := by
  cases back with
  | ok v => simp [afterRelease, isLoud]
  | error fault => cases hf : fault.isOrdinary <;> simp [afterRelease, isLoud, hf]

/-- What a release raises goes no further, unless it is no ordinary fault. -/
theorem afterRelease_ne_error {back : Except Fault Value} {fault : Fault}
    (hf : fault.isOrdinary = true) : afterRelease (.ok ()) back ≠ .error fault := by
  intro h
  cases hl : isLoud back with
  | false =>
    rw [afterRelease_of_quiet _ hl] at h
    cases h
  | true =>
    obtain ⟨loud, hloud, hnot⟩ := afterRelease_of_loud (.ok ()) hl
    obtain rfl : loud = fault := Except.error.inj (hloud.symm.trans h)
    simp [hf] at hnot

theorem conditional (h : Parted lock s outcome requests) : Conditional lock s outcome requests := by
  cases h with
  | unanswered hheld => constructor <;> simp [hheld]
  | kept hheld hv => constructor <;> simp [hheld, hv]
  | @released v t hheld hv _ =>
    constructor
    case returns => simp [hheld, afterRelease_eq_ok_iff]
    case letsOut =>
      intro fault hf
      simp [hheld, afterRelease_ne_error hf]
    case releases => simp [hheld, hv]
    case once =>
      intro back hback
      obtain rfl : back = (lock.release t).1 := by simpa using hback
      exact ⟨v, hv, rfl⟩

end Parted

/-! ## The question, for each kind of lock -/

/-- No ordinary fault gets out of a conditional release from the world `s`. -/
def Quiet (lock : Handle σ) (s : σ) : Prop :=
  ∀ fault, fault.isOrdinary = true → (releaseIfHeld (some lock) s).1 ≠ .error fault

/-- A conditional release is quiet just if the question is not answered with an ordinary fault. -/
theorem quiet_iff_answers (lock : Handle σ) (s : σ) :
    Quiet lock s ↔ ∀ fault, fault.isOrdinary = true → (lock.isHeld s).1 ≠ .error fault := by
  have hconditional := (parted lock s).conditional
  rw [Quiet, releaseIfHeld_eq_requested]
  exact forall₂_congr fun fault hf => not_congr (hconditional.letsOut fault hf)

open Lock

/-- A re-entrant mutex knows the answer by itself. -/
theorem reentrant_isHeld (lock : Reentrant σ) (me : Thread) (s : σ) :
    (lock.handle me).isHeld s = (.ok (.bool (0 < (lock.ownership.read s).holds)), s) :=
  Slot.get_bind_apply ..

/-- A single-lease mutex asks its service. -/
theorem lease_isHeld_eq_error_iff (lock : Lease σ) (s : σ) (fault : Fault) :
    (lock.handle.isHeld s).1 = .error fault ↔ (lock.recipe.isGranted s).1 = .error fault := by
  rcases h : lock.recipe.isGranted s with ⟨answer, t⟩
  cases answer with
  | error e =>
    have hheld : lock.handle.isHeld s = (.error e, t) := Run.bind_error _ h
    rw [hheld]
  | ok v =>
    have hheld : lock.handle.isHeld s = (.ok (.bool v.isTruthy), t) := Lease.isHeld_of_readable h
    rw [hheld]
    exact ⟨nofun, nofun⟩

/-- A cache mutex asks the cache, if it has a token. -/
theorem cached_isHeld_eq_error_iff (env : Surroundings σ) (lock : Cached σ) (s : σ)
    (fault : Fault) :
    ((lock.handle env).isHeld s).1 = .error fault ↔
      lock.token.read s ≠ none ∧ (env.get lock.key s).1 = .error fault := by
  cases htoken : lock.token.read s with
  | none =>
    have hheld : (lock.handle env).isHeld s = (.ok (.bool false), s) :=
      Run.bind_ok _ (ownsKey_of_no_token env.toCacheService lock htoken)
    rw [hheld]
    exact ⟨nofun, fun h => absurd rfl h.1⟩
  | some token =>
    rcases hget : env.get lock.key s with ⟨answer, t⟩
    cases answer with
    | error e =>
      have hheld : (lock.handle env).isHeld s = (.error e, t) :=
        Run.bind_error _ (ownsKey_of_error htoken hget)
      rw [hheld]
      simp
    | ok v =>
      have hheld : (lock.handle env).isHeld s = (.ok (.bool (v.isText token)), t) :=
        Run.bind_ok _ (ownsKey_of_ok htoken hget)
      rw [hheld]
      simp

/-- **Giving a lock back if it is held.** -/
theorem conditional_release :
    (∀ (lock : Handle σ) (s : σ),
      let ran := releaseIfHeld (some (requested lock)) (s, [])
      releaseIfHeld (some lock) s = (ran.1, ran.2.1) ∧ Conditional lock s ran.1 ran.2.2 ∧
        (Quiet lock s ↔ ∀ fault, fault.isOrdinary = true → (lock.isHeld s).1 ≠ .error fault)) ∧
    (∀ (lock : Reentrant σ) (me : Thread) (s : σ), Quiet (lock.handle me) s) ∧
    (∀ (lock : Lease σ) (s : σ), Quiet lock.handle s ↔
      ∀ fault, fault.isOrdinary = true → (lock.recipe.isGranted s).1 ≠ .error fault) ∧
    ∀ (env : Surroundings σ) (lock : Cached σ) (s : σ), Quiet (lock.handle env) s ↔
      lock.token.read s = none ∨
        ∀ fault, fault.isOrdinary = true → (env.get lock.key s).1 ≠ .error fault := by
  refine ⟨fun lock s => ⟨releaseIfHeld_eq_requested lock s, (parted lock s).conditional,
    quiet_iff_answers lock s⟩, ?reentrant, ?lease, ?cached⟩
  case reentrant =>
    intro lock me s
    rw [quiet_iff_answers, reentrant_isHeld]
    exact fun _ _ => nofun
  case lease =>
    intro lock s
    rw [quiet_iff_answers]
    exact forall₂_congr fun fault _ => not_congr (lease_isHeld_eq_error_iff lock s fault)
  case cached =>
    intro env lock s
    rw [quiet_iff_answers]
    simp only [ne_eq, cached_isHeld_eq_error_iff]
    by_cases htoken : lock.token.read s = none <;> simp [htoken]

/-! ## A lock that cannot be asked -/

/-- A mutex for a report that was obtained, whose cache can then be reached or not. -/
def reportObtained (link : Link) : (Memory × Link) × Option String :=
  let s := ((reportDesign.mutex tokenSlot).acquire Memory.remote.shared (.int 0) .seconds
    ((.fresh, .up), none)).2
  ((s.1.1, link), s.2)

/-- A mutex that was obtained is given back if its cache can be reached. If not, the fault of the
question, which is an ordinary one, gets out, and the release is not tried. -/
theorem not_quiet_of_unreadable :
    let lock := (reportDesign.mutex tokenSlot).handle Memory.remote.shared
    let ran (link : Link) := releaseIfHeld (some (requested lock)) (reportObtained link, [])
    (ran .up).1 = .ok () ∧ noAnswer.isOrdinary = true ∧
      releaseIfHeld (some lock) (reportObtained .down) = (.error noAnswer, reportObtained .down) ∧
      (ran .down).2.2 = [.held (.error noAnswer)] ∧ ¬ Quiet lock (reportObtained .down) := by
  intro lock ran
  have hout : releaseIfHeld (some lock) (reportObtained .down)
      = (.error noAnswer, reportObtained .down) := rfl
  refine ⟨rfl, rfl, hout, rfl, fun hquiet => ?_⟩
  exact hquiet noAnswer rfl (congrArg Prod.fst hout)

end Holding

end TimedLock
