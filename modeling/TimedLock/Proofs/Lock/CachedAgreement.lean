import TimedLock.Lock.Cached
import TimedLock.Proofs.Agreement

/-!
# Cache mutexes that agree

Two cache mutexes that are set up alike agree along a relation between their worlds as soon as their
surroundings and their tokens do (`Cached.Agree.handle`).
-/

namespace TimedLock.Lock

variable {ω σ β : Type} {R : ω → σ → Prop}

/-- Surroundings whose operations agree. -/
structure Surroundings.Agree (R : ω → σ → Prop) (env : Surroundings ω) (env' : Surroundings σ) :
    Prop where
  add : ∀ key token expire, Run.Agree R (env.add key token expire) (env'.add key token expire)
  get : ∀ key, Run.Agree R (env.get key) (env'.get key)
  delete : ∀ key, Run.Agree R (env.delete key) (env'.delete key)
  drawToken : Run.Agree R env.drawToken env'.drawToken
  now : Run.Agree R env.now env'.now
  sleep : ∀ pause, Run.Agree R (env.sleep pause) (env'.sleep pause)
  patience : env.patience = env'.patience

theorem Surroundings.Agree.shared {env : Surroundings ω} {env' : Surroundings σ}
    (h : Surroundings.Agree R env env') :
    Surroundings.Agree (Run.Beside (β := β) R) env.shared env'.shared where
  add key token expire := (h.add key token expire).beside
  get key := (h.get key).beside
  delete key := (h.delete key).beside
  drawToken := h.drawToken.beside
  now := h.now.beside
  sleep pause := (h.sleep pause).beside
  patience := h.patience

/-- Mutexes that are set up alike. -/
structure Cached.Agree (R : ω → σ → Prop) (lock : Cached ω) (lock' : Cached σ) : Prop where
  name : lock.name = lock'.name
  expire : lock.expire = lock'.expire
  pollInterval : lock.pollInterval = lock'.pollInterval
  token : Slot.Agree R lock.token lock'.token

namespace Cached.Agree

variable [Journal ω] [Journal σ] {env : Surroundings ω} {env' : Surroundings σ} {lock : Cached ω}
  {lock' : Cached σ}

omit [Journal ω] [Journal σ] in
theorem key (h : lock.Agree R lock') : lock.key = lock'.key := congrArg cacheKey h.name

theorem attempt (hR : Run.Journaled R) (he : env.Agree R env') (h : lock.Agree R lock') :
    Run.Agree R (lock.attempt env.toCacheService) (lock'.attempt env'.toCacheService) := by
  refine he.drawToken.bind fun token => ?_
  rw [h.key, h.expire, h.name]
  refine (he.add _ _ _).bind fun added => Run.Agree.ite ?_ (.pure false)
  exact (h.token.set _).bind fun _ => (Run.Agree.note hR _ _ _).bind fun _ => .pure true

theorem step (hR : Run.Journaled R) (he : env.Agree R env') (h : lock.Agree R lock')
    (interval : Value) (deadline : Float) :
    Run.Agree R ((lock.poller env).step interval deadline)
      ((lock'.poller env').step interval deadline) := by
  refine (attempt hR he h).bind fun obtained => Run.Agree.ite (.pure _) ?_
  refine he.now.bind fun now => Run.Agree.ite (.pure _) ?_
  exact (Run.Agree.ofExcept _).bind fun pause => (he.sleep pause).bind fun _ => .pure none

theorem acquire (hR : Run.Journaled R) (he : env.Agree R env') (h : lock.Agree R lock')
    (time : Value) (unit : TimeUnit) :
    Run.Agree R (lock.acquire env time unit) (lock'.acquire env' time unit) := by
  refine he.now.bind fun start => (Run.Agree.ofExcept _).bind fun seconds =>
    (Run.Agree.ofExcept _).bind fun deadline => ?_
  have hrun := (step hR he h lock.pollInterval deadline).untilSome env.patience
  unfold Poller.run
  rw [← h.pollInterval, ← he.patience, h.name]
  refine hrun.bind fun obtained => ?_
  cases obtained with
  | true => exact .pure _
  | false => exact (Run.Agree.note hR _ _ _).bind fun _ => .pure _

omit [Journal ω] [Journal σ] in
theorem ownsKey (he : env.Agree R env') (h : lock.Agree R lock') :
    Run.Agree R (lock.ownsKey env.toCacheService) (lock'.ownsKey env'.toCacheService) := by
  refine h.token.get.bind fun token => ?_
  cases token with
  | none => exact .pure false
  | some token =>
    rw [h.key]
    exact (he.get _).bind fun value => .pure _

theorem release (hR : Run.Journaled R) (he : env.Agree R env') (h : lock.Agree R lock') :
    Run.Agree R (lock.release env.toCacheService) (lock'.release env'.toCacheService) := by
  refine (ownsKey he h).bind fun owns => ?_
  rw [h.key, h.name]
  cases owns with
  | false => exact .fail _
  | true =>
    exact (he.delete _).bind fun _ => (h.token.set none).bind fun _ =>
      (Run.Agree.note hR _ _ _).bind fun _ => .pure Value.null

/-- **Mutexes that are set up alike agree.** -/
theorem handle (hR : Run.Journaled R) (he : env.Agree R env') (h : lock.Agree R lock') :
    Handle.Agree R (lock.handle env) (lock'.handle env') where
  acquire := acquire hR he h
  release := release hR he h
  isHeld := (ownsKey he h).bind fun _ => .pure _
  describe _ _ _ := congrArg (fun name : Value => s!"CacheMutex(lock_name={name.literal})") h.name

end Cached.Agree

end TimedLock.Lock
