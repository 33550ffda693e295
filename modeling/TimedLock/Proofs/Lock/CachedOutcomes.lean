import TimedLock.Lock.Cached
import TimedLock.Proofs.Number.Difference
import TimedLock.Proofs.Run

/-!
# What a cache mutex does, whatever its cache answers

A cache may answer anything, and may fail at any point. What a mutex makes of that:

* An acquisition that may take no time tries once. It adds its key once and does not sleep
  (`acquire_at_once`). Nothing is asked of the cache for that, only of the clock: that it never goes
  back (`Ticks`).
* A release reads the key, and deletes it if the token of the mutex is under it (`release_outcome`).
-/

namespace TimedLock.Lock

open Number

variable {σ β : Type}

/-! ## Waits of no time -/

/-- Surroundings where a clock can be read that never goes back, and tokens can be drawn. `clock` is
what it reads in a world. -/
structure Ticks (env : Surroundings σ) (clock : σ → ℚ) : Prop where
  now : ∀ s, ∃ x t, env.now s = (.ok x, t) ∧ Quantity.ofFloat x = .finite (clock s) ∧
    clock s ≤ clock t
  drawToken : ∀ s, ∃ token t, env.drawToken s = (.ok token, t) ∧ clock s ≤ clock t
  add : ∀ key token expire s, clock s ≤ clock (env.add key token expire s).2
  patience : 0 < env.patience

/-- A wait of no time is over when the clock is read again. -/
theorem isOver_left_of_le {start now : Float} {p q : ℚ} (hs : Quantity.ofFloat start = .finite p)
    (hn : Quantity.ofFloat now = .finite q) (h : p ≤ q) :
    Pace.isOver (Pace.left (start + zeroFloat) now) = true :=
  sub_le_zero (ofFloat_add_zero hs) hn h

/-- No time is no time in every unit. -/
theorem toSeconds_zero (unit : TimeUnit) : unit.toSeconds (.int 0) = .ok (.float zeroFloat) := by
  cases unit <;> rfl

/-! ## One step of a wait -/

namespace Poller

variable {τ π : Type} [Pace τ π] {poller : Poller σ τ π} {interval : π} {deadline now : τ}
  {bound : Nat} {s t u : σ}

theorem run_of_obtained (hb : 0 < bound) (h : poller.attempt s = (.ok true, t)) :
    poller.run interval deadline bound s = (.ok true, t) := by
  refine Run.untilSome_of_some hb ?_
  unfold step
  rw [Run.bind_ok _ h, if_pos rfl]
  rfl

theorem run_of_over (hb : 0 < bound) (h : poller.attempt s = (.ok false, t))
    (hn : poller.now t = (.ok now, u)) (ho : Pace.isOver (Pace.left deadline now) = true) :
    poller.run interval deadline bound s = (.ok false, u) := by
  refine Run.untilSome_of_some hb ?_
  unfold step
  rw [Run.bind_ok _ h, if_neg Bool.false_ne_true, Run.bind_ok _ hn, if_pos ho]
  rfl

theorem run_of_error {fault : Fault} (hb : 0 < bound) (h : poller.attempt s = (.error fault, t)) :
    poller.run interval deadline bound s = (.error fault, t) := by
  refine Run.untilSome_of_error hb ?_
  unfold step
  rw [Run.bind_error _ h]

end Poller

/-! ## One try -/

/-- What became of the one try of an acquisition, given how the cache answered and the world that
left. -/
inductive Attempted [Journal σ] (env : Surroundings σ) (lock : Cached σ) (token : String) :
    Except Fault Value × σ → Except Fault Value × σ → Prop
  | obtained {v : Value} {s t : σ} : v.isTruthy = true → Noted (lock.token.write (some token) s) t →
      Attempted env lock token (.ok v, s) (.ok (.bool true), t)
  | taken {v : Value} {s t : σ} : v.isTruthy = false → Noted (env.now s).2 t →
      Attempted env lock token (.ok v, s) (.ok (.bool false), t)
  | failed (fault : Fault) (s : σ) :
      Attempted env lock token (.error fault, s) (.error fault, s)

variable [Journal σ] {cache : CacheService σ} {env : Surroundings σ} {clock : σ → ℚ}
  {lock : Cached σ} {s t u : σ} {token : String} {fault : Fault} {v : Value}

theorem attempt_of_error (hd : cache.drawToken s = (.ok token, t))
    (ha : cache.add lock.key token lock.expire t = (.error fault, u)) :
    lock.attempt cache s = (.error fault, u) := by
  unfold Cached.attempt
  rw [Run.bind_ok _ hd, Run.bind_error _ ha]

theorem attempt_of_truthy (hd : cache.drawToken s = (.ok token, t))
    (ha : cache.add lock.key token lock.expire t = (.ok v, u)) (hv : v.isTruthy = true) :
    ∃ u', lock.attempt cache s = (.ok true, u') ∧ Noted (lock.token.write (some token) u) u' := by
  unfold Cached.attempt
  rw [Run.bind_ok _ hd, Run.bind_ok _ ha, if_pos hv]
  exact ⟨_, rfl, .record _ _⟩

theorem attempt_of_falsy (hd : cache.drawToken s = (.ok token, t))
    (ha : cache.add lock.key token lock.expire t = (.ok v, u)) (hv : v.isTruthy = false) :
    lock.attempt cache s = (.ok false, u) := by
  unfold Cached.attempt
  rw [Run.bind_ok _ hd, Run.bind_ok _ ha, if_neg (Bool.eq_false_iff.1 hv)]
  rfl

/-- An acquisition that may take no time polls until a deadline that is now. -/
theorem acquire_zero_apply {start : Float} (hnow : env.now s = (.ok start, t)) (unit : TimeUnit) :
    lock.acquire env (.int 0) unit s
      = (do
          let obtained ←
            (lock.poller env).run lock.pollInterval (start + zeroFloat) env.patience
          if !obtained then
            .note .debug .taskLock s!"Task lock already exists lock_name={lock.name.display}"
          pure (.bool obtained) : Run σ Value) t := by
  unfold Cached.acquire
  rw [Run.bind_ok _ hnow, toSeconds_zero, Run.ofExcept_ok_bind,
    show Value.addedTo start (.float zeroFloat) = .ok (start + zeroFloat) from rfl,
    Run.ofExcept_ok_bind]

/-- **A try that may take no time.** -/
theorem acquire_at_once (h : Ticks env clock) (lock : Cached σ) (unit : TimeUnit) (s : σ) :
    ∃ token t, env.drawToken (env.now s).2 = (.ok token, t) ∧
      Attempted env lock token (env.add lock.key token lock.expire t)
        (lock.acquire env (.int 0) unit s) := by
  obtain ⟨start, s₁, hnow, hstart, hle₁⟩ := h.now s
  obtain ⟨token, s₂, hd, hle₂⟩ := h.drawToken s₁
  rcases ha : env.add lock.key token lock.expire s₂ with ⟨answer, u⟩
  have hle₃ : clock s₂ ≤ clock u := by simpa [ha] using h.add lock.key token lock.expire s₂
  refine ⟨token, s₂, by rw [hnow, hd], ?_⟩
  rw [ha, acquire_zero_apply hnow]
  cases answer with
  | error fault =>
    have hattempt : (lock.poller env).attempt s₁ = (.error fault, u) := attempt_of_error hd ha
    rw [Run.bind_error _ (Poller.run_of_error h.patience hattempt)]
    exact .failed fault u
  | ok v =>
    cases hv : v.isTruthy with
    | true =>
      obtain ⟨u', hu', hnoted⟩ := attempt_of_truthy hd ha hv
      have hattempt : (lock.poller env).attempt s₁ = (.ok true, u') := hu'
      rw [Run.bind_ok _ (Poller.run_of_obtained h.patience hattempt)]
      exact .obtained hv hnoted
    | false =>
      obtain ⟨now, u', hnow', hend, -⟩ := h.now u
      have hattempt : (lock.poller env).attempt s₁ = (.ok false, u) := attempt_of_falsy hd ha hv
      have hread : (lock.poller env).now u = (.ok now, u') := hnow'
      have hover := isOver_left_of_le hstart hend (hle₁.trans (hle₂.trans hle₃))
      rw [Run.bind_ok _ (Poller.run_of_over h.patience hattempt hread hover)]
      have hleft : (env.now u).2 = u' := by rw [hnow']
      exact .taken hv (hleft ▸ .record _ _)

/-! ## One release -/

/-- What became of a release by the owner of a token, given how the cache answered when it was asked
for the key, and the world that left. -/
inductive Released [Journal σ] (cache : CacheService σ) (lock : Cached σ) (token : String) :
    Except Fault Value × σ → Except Fault Value × σ → Prop
  | unreadable (fault : Fault) (s : σ) :
      Released cache lock token (.error fault, s) (.error fault, s)
  | foreign {v : Value} (s : σ) : v.isText token = false →
      Released cache lock token (.ok v, s) (.error (Problem.taskLockNotHeld lock.name).fault, s)
  | undeletable {v : Value} {s t : σ} {fault : Fault} : v.isText token = true →
      cache.delete lock.key s = (.error fault, t) →
      Released cache lock token (.ok v, s) (.error fault, t)
  | deleted {v : Value} {s t u : σ} : v.isText token = true →
      cache.delete lock.key s = (.ok (), t) → Noted (lock.token.write none t) u →
      Released cache lock token (.ok v, s) (.ok .null, u)

omit [Journal σ] in
/-- Without a token, nothing is asked. -/
theorem ownsKey_of_no_token (cache : CacheService σ) (lock : Cached σ)
    (h : lock.token.read s = none) : lock.ownsKey cache s = (.ok false, s) := by
  unfold Cached.ownsKey
  rw [Slot.get_bind_apply, h]
  rfl

omit [Journal σ] in
theorem ownsKey_of_error (htoken : lock.token.read s = some token)
    (hget : cache.get lock.key s = (.error fault, t)) :
    lock.ownsKey cache s = (.error fault, t) := by
  unfold Cached.ownsKey
  rw [Slot.get_bind_apply, htoken]
  exact Run.bind_error _ hget

omit [Journal σ] in
theorem ownsKey_of_ok (htoken : lock.token.read s = some token)
    (hget : cache.get lock.key s = (.ok v, t)) :
    lock.ownsKey cache s = (.ok (v.isText token), t) := by
  unfold Cached.ownsKey
  rw [Slot.get_bind_apply, htoken]
  exact Run.bind_ok _ hget

theorem release_of_no_token (cache : CacheService σ) (lock : Cached σ)
    (h : lock.token.read s = none) :
    lock.release cache s = (.error (Problem.taskLockNotHeld lock.name).fault, s) := by
  unfold Cached.release
  rw [Run.bind_ok _ (ownsKey_of_no_token cache lock h)]
  rfl

/-- **A release.** -/
theorem release_outcome (cache : CacheService σ) (lock : Cached σ)
    (htoken : lock.token.read s = some token) :
    Released cache lock token (cache.get lock.key s) (lock.release cache s) := by
  rcases hget : cache.get lock.key s with ⟨answer, t⟩
  cases answer with
  | error fault =>
    unfold Cached.release
    rw [Run.bind_error _ (ownsKey_of_error htoken hget)]
    exact .unreadable fault t
  | ok v =>
    unfold Cached.release
    rw [Run.bind_ok _ (ownsKey_of_ok htoken hget)]
    cases hv : v.isText token with
    | false => exact .foreign t hv
    | true =>
      rw [if_pos rfl]
      rcases hdel : cache.delete lock.key t with ⟨done, u⟩
      cases done with
      | error fault =>
        rw [Run.bind_error _ hdel]
        exact .undeletable hv hdel
      | ok _ =>
        rw [Run.bind_ok _ hdel]
        exact .deleted hv hdel (.record _ _)

end TimedLock.Lock
