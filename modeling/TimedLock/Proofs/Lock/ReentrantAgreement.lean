import TimedLock.Lock.Reentrant
import TimedLock.Proofs.Agreement

/-!
# Re-entrant mutexes that agree

Two re-entrant mutexes of one path agree along a relation between their worlds as soon as what they
ask of the service and where they keep their owner do (`Reentrant.Agree.handle`).
-/

namespace TimedLock.Lock

variable {ω σ : Type} {R : ω → σ → Prop}

/-- Services whose operations agree. -/
structure Recipe.Agree (R : ω → σ → Prop) (recipe : Recipe ω) (recipe' : Recipe σ) : Prop where
  acquire : ∀ wait, Run.Agree R (recipe.acquire wait) (recipe'.acquire wait)
  release : Run.Agree R recipe.release recipe'.release

/-- Mutexes of one path. -/
structure Reentrant.Agree (R : ω → σ → Prop) (lock : Reentrant ω) (lock' : Reentrant σ) :
    Prop where
  path : lock.path = lock'.path
  recipe : Recipe.Agree R lock.recipe lock'.recipe
  ownership : Slot.Agree R lock.ownership lock'.ownership

theorem Recipe.Agree.acquireWithin [Journal ω] [Journal σ] {recipe : Recipe ω}
    {recipe' : Recipe σ} (hR : Run.Journaled R) (h : Recipe.Agree R recipe recipe')
    (path time : Value) (unit : TimeUnit) :
    Run.Agree R (recipe.acquireWithin path time unit) (recipe'.acquireWithin path time unit) := by
  have hask := (Run.Agree.ofExcept (R := R) (Wait.ofTime time unit)).bind h.acquire
  exact hask.recover fun _ => (Run.Agree.note hR _ _ _).bind fun _ => .pure _

namespace Reentrant.Agree

variable {lock : Reentrant ω} {lock' : Reentrant σ}

theorem acquire [Journal ω] [Journal σ] (hR : Run.Journaled R) (h : lock.Agree R lock')
    (me : Thread) (time : Value) (unit : TimeUnit) :
    Run.Agree R (lock.acquire me time unit) (lock'.acquire me time unit) := by
  refine h.ownership.get.bind fun now => Run.Agree.ite ?_ ?_
  · exact (h.ownership.set _).bind fun _ => .pure _
  · rw [h.path]
    refine (h.recipe.acquireWithin hR _ time unit).bind fun obtained => Run.Agree.ite ?_ (.pure _)
    exact (h.ownership.set _).bind fun _ => .pure _

theorem release (h : lock.Agree R lock') (me : Thread) :
    Run.Agree R (lock.release me) (lock'.release me) := by
  rw [Reentrant.release, Reentrant.release, h.path]
  refine h.ownership.get.bind fun now => Run.Agree.ite (.fail _) (Run.Agree.ite ?_ ?_)
  · exact (h.ownership.set _).bind fun _ => .pure _
  · exact (h.ownership.set _).bind fun _ => h.recipe.release.bind fun _ => .pure _

theorem isHeld (h : lock.Agree R lock') : Run.Agree R lock.isHeld lock'.isHeld :=
  h.ownership.get.bind fun now => .pure (Value.bool (0 < now.holds))

theorem describe (h : lock.Agree R lock') {w : ω} {s : σ} (hws : R w s) :
    lock.describe w = lock'.describe s := by
  unfold Reentrant.describe
  rw [h.path, h.ownership.read w s hws]

/-- **Mutexes of one path agree.** -/
theorem handle [Journal ω] [Journal σ] (hR : Run.Journaled R) (h : lock.Agree R lock')
    (me : Thread) : Handle.Agree R (lock.handle me) (lock'.handle me) where
  acquire := h.acquire hR me
  release := h.release me
  isHeld := h.isHeld
  describe _ _ hws := h.describe hws

end Reentrant.Agree

end TimedLock.Lock
