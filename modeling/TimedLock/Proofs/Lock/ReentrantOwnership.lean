import TimedLock.Proofs.Lock.ReentrantSteps

/-!
# Who owns a re-entrant mutex

**Theorem (`owned_until_released`).** Take any run of a re-entrant mutex, by any threads, over a
service that grants its lock only while it is not granted. The mutex counts holds exactly while it
has an owner. A thread that obtained it while it had none stays its owner until it has released it
as often as it obtained it: until then it may obtain it again for nothing, every other thread is
refused (`Protected`), and the service is not asked to take the lock back. It is asked once, by the
last release.

An acquisition that the service grants overwrites owner and count, whoever the owner was. What makes
that safe is that an owned mutex has a granted lock (`HeldBy`), and such a lock is granted to nobody
else; each turn keeps this (`HeldBy.turn`), hence every run does (`HeldBy.runs`).
-/

namespace TimedLock.Lock.Reentrant

open Holding

/-! ## What is to be shown -/

/-- Whether a thread obtained the mutex in a turn. -/
def Turn.isGrantTo (t : Thread) : Turn → Bool
  | ⟨.acquire me _ _, answer⟩ => me = t && isGrant answer
  | _ => false

/-- Whether a thread released the mutex in a turn, or tried to. -/
def Turn.isReleaseBy (t : Thread) : Turn → Bool
  | ⟨.release me, _⟩ => me = t
  | _ => false

/-- How often a thread obtained the mutex. -/
def grants (t : Thread) (turns : List Turn) : Nat := turns.countP (·.isGrantTo t)

/-- How often a thread released it. -/
def releases (t : Thread) (turns : List Turn) : Nat := turns.countP (·.isReleaseBy t)

theorem grants_snoc (t : Thread) (turns : List Turn) (now : Turn) :
    grants t (turns ++ [now]) = grants t turns + (now.isGrantTo t).toNat := by
  cases h : now.isGrantTo t <;> simp [grants, h]

theorem releases_snoc (t : Thread) (turns : List Turn) (now : Turn) :
    releases t (turns ++ [now]) = releases t turns + (now.isReleaseBy t).toNat := by
  cases h : now.isReleaseBy t <;> simp [releases, h]

theorem Turn.isGrantTo_of_isReleaseBy {t : Thread} {now : Turn} (h : now.isReleaseBy t = true) :
    now.isGrantTo t = false := by
  obtain ⟨use, answer⟩ := now
  cases use with
  | release me => rfl
  | acquire me time unit => cases h
  | ask me => cases h

/-- In none of these turns did thread `t`, which obtained the mutex before them, release it for the
last time. -/
def Pending (t : Thread) (turns : List Turn) : Prop :=
  ∀ part, part <+: turns → releases t part < 1 + grants t part

variable {σ : Type}

/-- Thread `t` has obtained the mutex so many times more often than it has released it, and is
protected from every other thread. -/
structure Protected [Journal σ] (lock : Reentrant (World σ)) (t : Thread) (depth : Nat)
    (w : World σ) : Prop where
  isHeld : lock.isHeld w = (.ok (.bool true), w)
  /-- The service is not asked. -/
  reenters : ∀ time unit,
    lock.acquire t time unit w = (.ok (.bool true), w.1, ⟨some t, depth + 1⟩)
  /-- The service is asked at most once, and the mutex stays with its owner. -/
  shutsOut : ∀ t' time unit, t' ≠ t → ∃ answer v, lock.acquire t' time unit w = (answer, v, w.2) ∧
    isGrant answer = false ∧ (v.2 = w.1.2 ∨ ∃ wait reply, v.2 = w.1.2 ++ [.asked wait reply])
  refuses : ∀ t', t' ≠ t →
    lock.release t' w = (.error (Problem.foreignRelease lock.path).fault, w)
  /-- A release that is not the last does not ask the service. -/
  unwinds : 1 < depth → lock.release t w = (.ok .null, w.1, ⟨some t, depth - 1⟩)
  /-- The last one asks it once. -/
  givesBack : depth = 1 → (lock.release t w).2.2 = .free ∧
    ∃ answer, (lock.release t w).2.1.2 = w.1.2 ++ [.gaveBack answer]

/-! ## Free or owned -/

/-- The mutex counts holds exactly while it has an owner. -/
def Counted (w : World σ) : Prop := 0 < w.2.holds ↔ w.2.owner ≠ none

variable {path : Value} {recipe : Recipe σ} {granted : σ → Bool} {w v : World σ} {turns : List Turn}
  {now : Turn} {t : Thread} {n : Nat}

theorem Counted.turn (hw : Counted w) (he : Effect recipe granted w now v) : Counted v := by
  cases he with
  | asks me answer => exact hw
  | reenters time unit ho => exact iff_of_true (Nat.succ_pos _) (by simp [ho])
  | @asked me time unit answer u ho hasked =>
    by_cases hg : isGrant answer = true
    · simp [Counted, hg]
    · simpa [Counted, hg] using hw
  | refuses answer ho => exact hw
  | unwinds answer ho hn =>
    have hpos : 0 < w.2.holds - 1 := by omega
    exact iff_of_true hpos (by simp [ho])
  | givesBack answer ho hn => simp [Counted, Ownership.free]

/-! ## Held by a thread -/

/-- A thread owns the mutex, and the lock of the service is granted. -/
structure HeldBy (granted : σ → Bool) (t : Thread) (n : Nat) (w : World σ) : Prop where
  ownership : w.2 = ⟨some t, n⟩
  pos : 0 < n
  isGranted : granted w.1.1 = true

namespace HeldBy

theorem owner_iff (hw : HeldBy granted t n w) (me : Thread) : w.2.owner = some me ↔ me = t := by
  rw [hw.ownership]
  exact Option.some_inj.trans eq_comm

theorem holds_eq (hw : HeldBy granted t n w) : w.2.holds = n := by
  rw [hw.ownership]

variable [Journal σ]

/-- **One turn in a hold**, if it is not the last release of the owner. -/
theorem turn (h : recipe.Exclusive granted) (hw : HeldBy granted t n w)
    (he : Effect recipe granted w now v) (hlast : now.isReleaseBy t = true → 1 < n) :
    ∃ m, HeldBy granted t m v ∧
      m + (now.isReleaseBy t).toNat = n + (now.isGrantTo t).toNat ∧ returns v = returns w := by
  cases he with
  | asks me answer => exact ⟨n, hw, rfl, rfl⟩
  | @reenters me time unit ho =>
    obtain rfl := (hw.owner_iff me).1 ho
    refine ⟨n + 1, ⟨?_, Nat.succ_pos n, hw.isGranted⟩, ?_, rfl⟩
    · rw [hw.ownership]
    · simp [Turn.isReleaseBy, Turn.isGrantTo, isGrant, Value.isTruthy]
  | @asked me time unit answer u ho hasked =>
    have hno := hasked.not_grant h hw.isGranted
    have hstays := hasked.stays h hw.isGranted
    refine ⟨n, ⟨?_, hw.pos, hstays⟩, ?_, ?_⟩
    · simpa [hno] using hw.ownership
    · simp [Turn.isReleaseBy, Turn.isGrantTo, hno]
    · exact hasked.returns_eq
  | @refuses me answer ho =>
    have hme : me ≠ t := fun he => ho ((hw.owner_iff me).2 he)
    exact ⟨n, hw, by simp [Turn.isReleaseBy, Turn.isGrantTo, hme], rfl⟩
  | @unwinds me answer ho hn =>
    obtain rfl := (hw.owner_iff me).1 ho
    rw [hw.holds_eq] at hn
    refine ⟨n - 1, ⟨?_, by omega, hw.isGranted⟩, ?_, rfl⟩
    · rw [hw.ownership]
    · simpa [Turn.isReleaseBy, Turn.isGrantTo] using Nat.sub_add_cancel hw.pos
  | @givesBack me answer ho hn =>
    obtain rfl := (hw.owner_iff me).1 ho
    rw [hw.holds_eq] at hn
    exact absurd (hlast (by simp [Turn.isReleaseBy])) hn

end HeldBy

variable [Journal σ]

/-- **A whole run in a hold.** -/
theorem HeldBy.runs (h : recipe.Exclusive granted) (hr : Runs (ofPath path recipe) turns w v)
    (hw : HeldBy granted t 1 w) (hp : Pending t turns) :
    ∃ n, HeldBy granted t n v ∧ n + releases t turns = 1 + grants t turns ∧
      returns v = returns w := by
  induction hr with
  | refl w => exact ⟨1, hw, rfl, rfl⟩
  | @snoc turns w u use hr ih =>
    obtain ⟨n, hu, hcount, hreturns⟩ :=
      ih hw fun part hpart => hp part (hpart.trans (List.prefix_append ..))
    have hwhole := hp _ (List.prefix_refl _)
    rw [releases_snoc, grants_snoc] at hwhole
    obtain ⟨m, hm, hcount', hreturns'⟩ := hu.turn h (use.effect h path u) fun hrel => by
      rw [hrel, Turn.isGrantTo_of_isReleaseBy hrel] at hwhole
      simp only [Bool.toNat_true, Bool.toNat_false] at hwhole
      omega
    refine ⟨m, hm, ?_, hreturns'.trans hreturns⟩
    rw [releases_snoc, grants_snoc]
    omega

theorem Counted.runs (h : recipe.Exclusive granted) (hr : Runs (ofPath path recipe) turns w v)
    (hw : Counted w) : Counted v := by
  induction hr with
  | refl w => exact hw
  | snoc use hr ih => exact (ih hw).turn (use.effect h path _)

/-! ## What the owner is promised -/

theorem HeldBy.protects (h : recipe.Exclusive granted) (path : Value)
    (hw : HeldBy granted t n w) : Protected (ofPath path recipe) t n w where
  isHeld := by
    rw [isHeld_apply, hw.holds_eq, decide_eq_true hw.pos]
  reenters time unit := by
    rw [acquire_of_owner ((hw.owner_iff t).2 rfl), hw.ownership]
  shutsOut t' time unit ht := by
    have ho : w.2.owner ≠ some t' := fun ho => ht ((hw.owner_iff t').1 ho)
    obtain ⟨answer, v, hasked, hv⟩ := acquire_of_stranger h ho path time unit
    have hno := hasked.not_grant h hw.isGranted
    refine ⟨answer, v.1, ?_, hno, hasked.errands_eq⟩
    rw [hv, hno, if_neg Bool.false_ne_true]
  refuses t' ht := release_of_stranger fun ho => ht ((hw.owner_iff t').1 ho)
  unwinds hn := by
    rw [release_of_inner ((hw.owner_iff t).2 rfl) (by rwa [hw.holds_eq]), hw.ownership]
  givesBack hn := by
    rw [release_of_last ((hw.owner_iff t).2 rfl) (by rw [hw.holds_eq, hn]; exact Nat.lt_irrefl 1)]
    exact ⟨rfl, _, rfl⟩

/-- An acquisition of a mutex without an owner begins a hold. -/
theorem heldBy_of_grant (h : recipe.Exclusive granted) {time : Value} {unit : TimeUnit}
    (ho : w.2.owner = none)
    (hg : isGrant ((ofPath path recipe).acquire t time unit w).1 = true) :
    HeldBy granted t 1 ((ofPath path recipe).acquire t time unit w).2 ∧
      returns ((ofPath path recipe).acquire t time unit w).2 = returns w := by
  obtain ⟨answer, v, hasked, hv⟩ := acquire_of_stranger h (by simp [ho] : w.2.owner ≠ some t) path
    time unit
  rw [hv] at hg ⊢
  exact ⟨⟨if_pos hg, Nat.one_pos, (hasked.of_grant h hg).2⟩, hasked.returns_eq⟩

/-- The last release asks the service once to take its lock back. -/
theorem Protected.returns_last {lock : Reentrant (World σ)} (hp : Protected lock t 1 w) :
    (lock.release t w).2.2 = .free ∧
      ∃ answer, returns (lock.release t w).2 = returns w ++ [answer] := by
  obtain ⟨hfree, answer, he⟩ := hp.givesBack rfl
  exact ⟨hfree, answer, by simp [returns, he, Errand.returned?]⟩

/-- **Ownership over whole runs.** In every world that a run from a fresh mutex leads to, holds are
counted exactly while there is an owner. If thread `t` obtains the mutex there while it has no owner,
then `t` is protected after any further turns among which its last matching release is not, as deep
as it obtained the mutex more often than it released it. In all those turns the service was not asked
to take its lock back, and if the next release by `t` is the last one, that release asks it once. -/
theorem owned_until_released (h : recipe.Exclusive granted) (path : Value) (s : σ)
    (hv : Runs (ofPath path recipe) turns (fresh s) v) :
    (0 < v.2.holds ↔ v.2.owner ≠ none) ∧
      ∀ t time unit, v.2.owner = none →
        isGrant ((ofPath path recipe).acquire t time unit v).1 = true →
        ∀ during w,
          Runs (ofPath path recipe) during ((ofPath path recipe).acquire t time unit v).2 w →
          Pending t during →
            Protected (ofPath path recipe) t (1 + grants t during - releases t during) w ∧
              returns w = returns v ∧
              (releases t during = grants t during →
                ((ofPath path recipe).release t w).2.2 = .free ∧
                  ∃ answer, returns ((ofPath path recipe).release t w).2
                    = returns v ++ [answer]) := by
  have hfresh : Counted (fresh s) := by simp [Counted, fresh, Ownership.free]
  refine ⟨hfresh.runs h hv, ?_⟩
  intro t time unit ho hg during w hw hp
  obtain ⟨hbegin, hnone⟩ := heldBy_of_grant h ho hg
  obtain ⟨n, hn, hcount, hreturns⟩ := hbegin.runs h hw hp
  have hdepth : 1 + grants t during - releases t during = n := by omega
  rw [hdepth, ← hreturns.trans hnone]
  refine ⟨hn.protects h path, rfl, fun heven => ?_⟩
  obtain rfl : n = 1 := by omega
  exact (hn.protects h path).returns_last

/-! ## A service in memory -/

/-- A service that knows whether it granted its lock. What it answers to a release is given; it takes
the lock back unless that is a fault. -/
def memoryService (answer : Except Fault Value) : Recipe (List Entry × Bool) where
  acquire _ s := if s.2 then (.ok (.bool false), s) else (.ok (.bool true), s.1, true)
  release s := (answer, s.1, s.2 && !answer.isOk)
  isGranted := .look fun s => .bool s.2

theorem memoryService_exclusive (answer : Except Fault Value) :
    (memoryService answer).Exclusive Prod.snd where
  grants wait s hg := by
    rcases s with ⟨entries, _ | _⟩
    · exact ⟨rfl, rfl⟩
    · cases hg
  stays wait s hs := by
    rcases s with ⟨entries, _ | _⟩
    · cases hs
    · rfl
  noted entry s := rfl

/-- The mutex of a path over that service. -/
def memoryMutex (answer : Except Fault Value) : Reentrant (World (List Entry × Bool)) :=
  ofPath (.text "/locks/a") (memoryService answer)

/-- A thread obtains the mutex, and again, while another one tries in vain: it is two deep in its
hold. -/
theorem protected_of_two_grants :
    let lock := memoryMutex (.ok .null)
    let once := (lock.acquire "main" (.int 1) .seconds (fresh ([], false))).2
    let twice := (lock.acquire "main" (.int 1) .seconds once).2
    Protected lock "main" 2 (lock.acquire "worker" (.int 1) .seconds twice).2 := by
  have h := (owned_until_released (memoryService_exclusive (.ok .null)) (.text "/locks/a")
    ([], false) (.refl _)).2 "main" (.int 1) .seconds rfl rfl _ _
    (.snoc (.acquire "worker" (.int 1) .seconds)
      (.snoc (.acquire "main" (.int 1) .seconds) (.refl _)))
  refine (h ?_).1
  intro part hpart
  have hnone : releases "main" part ≤ 0 := hpart.sublist.countP_le
  omega

end TimedLock.Lock.Reentrant
