import TimedLock.Proofs.Lock.CachedSteps

/-!
# What an acquisition of a cache mutex comes down to

**Theorem (`acquire_tries`).** An acquisition either ends with the one attempt that obtained the
mutex, after which nothing more happens to the cache, or with no more than time having passed: a
wait, however long, leaves no trace under any key.

Both halves are kept together by `Tries`, which says of any computation that it obtains a mutex if
and only if its result is a success. `Tries` passes through sequences (`Tries.bind`), and through
the polling loop by induction on the number of polls that are left (`Tries.untilSome`).
-/

namespace TimedLock.Lock

section Wait

variable {σ β τ γ α δ : Type} [Journal σ] [Preorder τ] [DecidableLE τ] [Add τ]

/-- What came of trying to obtain a mutex from the world `w`, where `good` tells from a result
whether it was obtained. -/
inductive Tried (view : σ → View τ γ) (lifetimes : Lifetimes τ) (d : Design)
    (part : Slot β (Option String)) (good : α → Bool) (w : σ × β) : Except Fault α × σ × β → Prop
  | obtained {v : View τ γ} {token : String} {s : σ} {a : α} : good a = true →
      (view w.1).Passes v → v.live d.key = none → token ∉ v.drawn →
      view s = (v.draw token).add lifetimes d.key token d.expire →
      Tried view lifetimes d part good w (.ok a, s, part.write (some token) w.2)
  | missed {outcome : Except Fault α} {s : σ} : (∀ a, outcome = .ok a → good a = false) →
      (view w.1).Passes (view s) → Tried view lifetimes d part good w (outcome, s, w.2)

/-- A computation that obtains a mutex if and only if it ends with a good result. -/
def Tries (view : σ → View τ γ) (lifetimes : Lifetimes τ) (d : Design)
    (part : Slot β (Option String)) (good : α → Bool) (x : Run (σ × β) α) : Prop :=
  ∀ w, Tried view lifetimes d part good w (x w)

/-- A computation in which nothing but time passes. -/
def Waits (view : σ → View τ γ) (x : Run (σ × β) α) : Prop :=
  ∀ w, ∃ outcome s, x w = (outcome, s, w.2) ∧ (view w.1).Passes (view s)

variable {env : Surroundings σ} {view : σ → View τ γ} {lifetimes : Lifetimes τ} {d : Design}
  {part : Slot β (Option String)} {good : α → Bool} {good' : δ → Bool}

/-! ## Computations that wait -/

omit [Journal σ] [Add τ] in
theorem waits_ofExcept (outcome : Except Fault α) :
    Waits view (.ofExcept outcome : Run (σ × β) α) := fun w => ⟨outcome, w.1, rfl, .refl _⟩

theorem waits_now (h : FaithfulSurroundings env view lifetimes) :
    Waits view (env.shared : Surroundings (σ × β)).now := fun w => ⟨_, _, rfl, h.now w.1⟩

theorem waits_sleep (h : FaithfulSurroundings env view lifetimes) (pause : Value) :
    Waits view ((env.shared : Surroundings (σ × β)).sleep pause) :=
  fun w => ⟨_, _, rfl, h.sleep pause w.1⟩

theorem waits_note (h : FaithfulSurroundings env view lifetimes) (severity : Severity)
    (topic : Topic) (message : String) :
    Waits view (.note severity topic message : Run (σ × β) Unit) := fun w =>
  ⟨_, _, rfl, by rw [h.record]; exact .refl _⟩

/-! ## Computations that try -/

omit [Journal σ] in
/-- A wait before a try belongs to the try. -/
theorem Tried.after {w : σ × β} {s : σ} {x : Except Fault α × σ × β}
    (hp : (view w.1).Passes (view s)) (h : Tried view lifetimes d part good (s, w.2) x) :
    Tried view lifetimes d part good w x := by
  cases h with
  | obtained hgood hv hfree hn hs => exact .obtained hgood (hp.trans hv) hfree hn hs
  | missed hbad hs => exact .missed hbad (hp.trans hs)

namespace Tries

omit [Journal σ]

theorem of_bad {a : α} (h : good a = false) :
    Tries view lifetimes d part good (pure a : Run (σ × β) α) := fun w => by
  refine .missed ?_ (.refl _)
  rintro _ ⟨⟩
  exact h

theorem of_fail (fault : Fault) :
    Tries view lifetimes d part good (.fail fault : Run (σ × β) α) := fun _ =>
  .missed (by rintro _ ⟨⟩) (.refl _)

theorem after_wait {x : Run (σ × β) δ} {f : δ → Run (σ × β) α} (hx : Waits view x)
    (hf : ∀ a, Tries view lifetimes d part good (f a)) :
    Tries view lifetimes d part good (x >>= f) := by
  intro w
  obtain ⟨outcome, s, hxw, hp⟩ := hx w
  cases outcome with
  | ok a =>
    rw [Run.bind_ok f hxw]
    exact (hf a (s, w.2)).after hp
  | error fault =>
    rw [Run.bind_error f hxw]
    exact .missed (by rintro _ ⟨⟩) hp

/-- What follows a try may turn a good result into another good one, and may try again after a bad
one. -/
theorem bind {x : Run (σ × β) α} {f : α → Run (σ × β) δ}
    (hx : Tries view lifetimes d part good x)
    (hgood : ∀ a, good a = true → ∃ b, f a = pure b ∧ good' b = true)
    (hbad : ∀ a, good a = false → Tries view lifetimes d part good' (f a)) :
    Tries view lifetimes d part good' (x >>= f) := by
  intro w
  have h := hx w
  rcases hxw : x w with ⟨outcome, w'⟩
  rw [hxw] at h
  cases h with
  | @obtained v token s a ha hv hfree hn hs =>
    obtain ⟨b, hf, hb⟩ := hgood a ha
    rw [Run.bind_ok f hxw, hf]
    exact .obtained hb hv hfree hn hs
  | missed hall hp =>
    cases outcome with
    | ok a =>
      rw [Run.bind_ok f hxw]
      exact (hbad a (hall a rfl) _).after hp
    | error fault =>
      rw [Run.bind_error f hxw]
      exact .missed (by rintro _ ⟨⟩) hp

/-- What a step of the loop ends with is good if it is to end the loop with success. -/
def stepGood (result : Option Bool) : Bool := result.getD false

theorem untilSome {step : Run (σ × β) (Option Bool)}
    (h : Tries view lifetimes d part stepGood step) (bound : Nat) :
    Tries view lifetimes d part id (Run.untilSome step bound) := by
  induction bound with
  | zero => exact of_fail _
  | succ bound ih =>
    refine h.bind (fun a ha => ?_) fun a ha => ?_
    · cases a with
      | none => cases ha
      | some b => exact ⟨b, rfl, ha⟩
    · cases a with
      | none => exact ih
      | some b => exact of_bad ha

end Tries

/-! ## The acquisition -/

theorem attempt_tries (h : FaithfulSurroundings env view lifetimes)
    (hx : lifetimes.admits d.expire) :
    Tries view lifetimes d part id
      ((d.mutex part).attempt (env.shared : Surroundings (σ × β)).toCacheService) := by
  intro w
  cases hl : (view w.1).live d.key with
  | none =>
    obtain ⟨token, s, hn, hs, hv⟩ := attempt_of_free part h.toFaithful hx hl
    rw [hs]
    exact .obtained rfl (.refl _) hl hn hv
  | some entry =>
    obtain ⟨token, s, hs, hv⟩ := attempt_of_taken part h.toFaithful hx hl
    rw [hs]
    refine .missed (by rintro _ ⟨⟩; rfl) ?_
    rw [hv]
    exact .draw _ token

theorem step_tries (h : FaithfulSurroundings env view lifetimes)
    (hx : lifetimes.admits d.expire) (interval : Value) (deadline : Float) :
    Tries view lifetimes d part Tries.stepGood
      (((d.mutex part).poller env.shared).step interval deadline : Run (σ × β) _) := by
  refine (attempt_tries h hx).bind (fun a ha => ?_) fun a ha => ?_
  · have hone : a = true := ha
    rw [if_pos hone]
    exact ⟨some true, rfl, rfl⟩
  · have hnot : ¬ a = true := Bool.eq_false_iff.1 ha
    rw [if_neg hnot]
    refine .after_wait (waits_now h) fun now => ?_
    by_cases hover : Pace.isOver (Pace.left deadline now) = true
    · rw [if_pos hover]
      exact .of_bad rfl
    · rw [if_neg hover]
      refine .after_wait (waits_ofExcept _) fun pause => ?_
      exact .after_wait (waits_sleep h pause) fun _ => .of_bad rfl

/-- **An acquisition** obtains the mutex, or leaves no trace. -/
theorem acquire_tries (h : FaithfulSurroundings env view lifetimes)
    (hx : lifetimes.admits d.expire) (time : Value) (unit : TimeUnit) :
    Tries view lifetimes d part Value.isTruthy
      ((d.mutex part).acquire (env.shared : Surroundings (σ × β)) time unit) := by
  refine .after_wait (waits_now h) fun start => ?_
  refine .after_wait (waits_ofExcept _) fun seconds => ?_
  refine .after_wait (waits_ofExcept _) fun deadline => ?_
  refine ((step_tries h hx _ _).untilSome _).bind (fun a ha => ?_) fun a ha => ?_
  · have hone : a = true := ha
    subst hone
    exact ⟨.bool true, rfl, rfl⟩
  · have hzero : a = false := ha
    subst hzero
    exact .after_wait (waits_note h _ _ _) fun _ => .of_bad rfl

end Wait

end TimedLock.Lock
