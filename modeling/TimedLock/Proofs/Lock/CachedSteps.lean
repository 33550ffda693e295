import TimedLock.Proofs.Lock.CacheContract

/-!
# What a cache mutex does to its cache

Each operation of a cache mutex in terms of what can be seen of the cache before and after it.

* An attempt draws a token. It adds the key if the key is free, and then keeps the token
  (`attempt_of_free`); otherwise it changes nothing more (`attempt_of_taken`).
* A release deletes the key if the token of the mutex is under it (`release_of_owner`), and fails
  otherwise (`release_of_stranger`). Asking whether the mutex is held changes nothing
  (`isHeld_apply`).

The token of a mutex is part of the private part of its world, so these equations also say that
nothing else that is private changes.
-/

namespace TimedLock.Lock

/-- How a mutex is set up. -/
structure Design where
  name : Value
  expire : Value
  pollInterval : Value

namespace Design

variable {σ β : Type}

def key (d : Design) : String := cacheKey d.name

/-- The mutex that keeps its token in a part of what is private. -/
def mutex (d : Design) (part : Slot β (Option String)) : Cached (σ × β) where
  name := d.name
  expire := d.expire
  pollInterval := d.pollInterval
  token := part.inPrivate

@[simp]
theorem mutex_key (d : Design) (part : Slot β (Option String)) :
    (d.mutex part : Cached (σ × β)).key = d.key := rfl

@[simp]
theorem mutex_expire (d : Design) (part : Slot β (Option String)) :
    (d.mutex part : Cached (σ × β)).expire = d.expire := rfl

end Design

section Steps

variable {σ β τ γ : Type} [Journal σ] [Preorder τ] [DecidableLE τ] [Add τ] {env : Surroundings σ}
  {view : σ → View τ γ} {lifetimes : Lifetimes τ} {d : Design} {part : Slot β (Option String)}
  {w : σ × β}

/-! ## One try -/

theorem attempt_of_free (part : Slot β (Option String))
    (h : Faithful env.toCacheService view lifetimes)
    (hx : lifetimes.admits d.expire) (hfree : (view w.1).live d.key = none) :
    ∃ token s, token ∉ (view w.1).drawn ∧
      (d.mutex part).attempt env.shared.toCacheService w
        = (.ok true, s, part.write (some token) w.2) ∧
      view s = ((view w.1).draw token).add lifetimes d.key token d.expire := by
  obtain ⟨token, t, hd, hn, ht⟩ := h.drawToken w.1
  have hfree' : (view t).live d.key = none := by
    rw [ht]
    exact hfree
  obtain ⟨answer, u, ha, htrue, hu⟩ := h.add_free d.key token d.expire t hx hfree'
  have hdraw : env.shared.toCacheService.drawToken w = (.ok token, t, w.2) := Run.inShared_of hd w.2
  have hadd : env.shared.toCacheService.add d.key token d.expire (t, w.2)
      = (.ok answer, u, w.2) := Run.inShared_of ha w.2
  have hrun : ∃ s, (d.mutex part).attempt env.shared.toCacheService w
      = (.ok true, s, part.write (some token) w.2) ∧ Noted u s := by
    unfold Cached.attempt
    rw [Design.mutex_key, Design.mutex_expire, Run.bind_ok _ hdraw, Run.bind_ok _ hadd,
      if_pos htrue]
    exact ⟨_, rfl, .record _ _⟩
  obtain ⟨s, hs, hnoted⟩ := hrun
  refine ⟨token, s, hn, hs, ?_⟩
  rw [h.noted hnoted, hu, ht]

theorem attempt_of_taken (part : Slot β (Option String))
    (h : Faithful env.toCacheService view lifetimes)
    (hx : lifetimes.admits d.expire) {entry : Stored τ Value}
    (htaken : (view w.1).live d.key = some entry) :
    ∃ token s, (d.mutex part).attempt env.shared.toCacheService w = (.ok false, s, w.2) ∧
      view s = (view w.1).draw token := by
  obtain ⟨token, t, hd, hn, ht⟩ := h.drawToken w.1
  have htaken' : (view t).live d.key = some entry := by
    rw [ht]
    exact htaken
  obtain ⟨answer, u, ha, hfalse, hu⟩ := h.add_taken d.key token d.expire t entry hx htaken'
  have hdraw : env.shared.toCacheService.drawToken w = (.ok token, t, w.2) :=
    Run.inShared_of hd w.2
  have hadd : env.shared.toCacheService.add d.key token d.expire (t, w.2)
      = (.ok answer, u, w.2) := Run.inShared_of ha w.2
  refine ⟨token, u, ?_, hu.trans ht⟩
  unfold Cached.attempt
  rw [Design.mutex_key, Design.mutex_expire, Run.bind_ok _ hdraw, Run.bind_ok _ hadd,
    if_neg (Bool.eq_false_iff.1 hfalse)]
  rfl

/-! ## Giving back -/

theorem ownsKey_apply (h : Faithful env.toCacheService view lifetimes) (d : Design)
    (part : Slot β (Option String)) (w : σ × β) :
    ∃ s, (d.mutex part).ownsKey env.shared.toCacheService w
        = (.ok ((view w.1).isOwn d.key (part.read w.2)), s, w.2) ∧ view s = view w.1 := by
  unfold Cached.ownsKey
  rw [show (d.mutex part).token.get = .look fun w => part.read w.2 from rfl, Run.look_bind_apply]
  cases part.read w.2 with
  | none => exact ⟨w.1, rfl, rfl⟩
  | some token =>
    obtain ⟨t, hg, ht⟩ := h.get d.key w.1
    have hget : env.shared.toCacheService.get d.key w
        = (.ok ((view w.1).value d.key), t, w.2) := Run.inShared_of hg w.2
    refine ⟨t, ?_, ht⟩
    exact (Run.bind_ok _ hget).trans rfl

theorem isHeld_apply (h : Faithful env.toCacheService view lifetimes) (d : Design)
    (part : Slot β (Option String)) (w : σ × β) :
    ∃ s, (d.mutex part).isHeld env.shared.toCacheService w
        = (.ok (.bool ((view w.1).isOwn d.key (part.read w.2))), s, w.2) ∧ view s = view w.1 := by
  obtain ⟨s, ho, hs⟩ := ownsKey_apply h d part w
  refine ⟨s, ?_, hs⟩
  unfold Cached.isHeld
  rw [Run.bind_ok _ ho]
  rfl

theorem release_of_owner (h : Faithful env.toCacheService view lifetimes) (d : Design)
    (part : Slot β (Option String)) (w : σ × β)
    (hown : (view w.1).isOwn d.key (part.read w.2) = true) :
    ∃ s, (d.mutex part).release env.shared.toCacheService w = (.ok .null, s, part.write none w.2) ∧
      view s = (view w.1).erase d.key := by
  obtain ⟨t, ho, ht⟩ := ownsKey_apply h d part w
  obtain ⟨u, hd, hu⟩ := h.delete d.key t
  have hdelete : env.shared.toCacheService.delete d.key (t, w.2)
      = (.ok (), u, w.2) := Run.inShared_of hd w.2
  have hrun : ∃ s, (d.mutex part).release env.shared.toCacheService w
      = (.ok .null, s, part.write none w.2) ∧ Noted u s := by
    unfold Cached.release
    rw [Run.bind_ok _ ho, if_pos hown, Design.mutex_key, Run.bind_ok _ hdelete]
    exact ⟨_, rfl, .record _ _⟩
  obtain ⟨s, hs, hnoted⟩ := hrun
  refine ⟨s, hs, ?_⟩
  rw [h.noted hnoted, hu, ht]

theorem release_of_stranger (h : Faithful env.toCacheService view lifetimes) (d : Design)
    (part : Slot β (Option String)) (w : σ × β)
    (hown : (view w.1).isOwn d.key (part.read w.2) = false) :
    ∃ s, (d.mutex part).release env.shared.toCacheService w
        = (.error (Problem.taskLockNotHeld d.name).fault, s, w.2) ∧ view s = view w.1 := by
  obtain ⟨s, ho, hs⟩ := ownsKey_apply h d part w
  refine ⟨s, ?_, hs⟩
  unfold Cached.release
  rw [Run.bind_ok _ ho, if_neg (Bool.eq_false_iff.1 hown)]
  rfl

/-- A release takes no time. -/
theorem release_clock (h : Faithful env.toCacheService view lifetimes) (d : Design)
    (part : Slot β (Option String)) (w : σ × β) :
    (view ((d.mutex part).release env.shared.toCacheService w).2.1).clock = (view w.1).clock := by
  cases hown : (view w.1).isOwn d.key (part.read w.2) with
  | true =>
    obtain ⟨s, hs, hv⟩ := release_of_owner h d part w hown
    rw [hs, hv]
    rfl
  | false =>
    obtain ⟨s, hs, hv⟩ := release_of_stranger h d part w hown
    rw [hs, hv]

end Steps

end TimedLock.Lock
