import TimedLock.Proofs.Holding.Stages
import TimedLock.Proofs.Lock.CachedOutcomes

/-!
# A wait, poll by poll

How polling goes (`Polled`), and with it a whole acquisition of a cache mutex (`Cached.Ends`), told
without a bound on the number of tries, but with every sleep on the way. What they tell is what
happens: a wait with no more tries than its bound does as told (`Cached.acquire_of_ends`), and every
wait goes like that unless it uses up its bound (`Cached.ends_or_exhausted`).

**Theorem (`Cached.Ends.untouched`).** A wait that does not obtain the mutex leaves alone what is
stored in the cache and the token of the mutex. The world may be another one after a sleep, because
others go on meanwhile; between the sleeps nothing that is stored changes (`Untouched`).
-/

namespace TimedLock.Lock

open Holding

variable {σ τ π δ : Type}

/-! ## What happens between sleeps -/

/-- From `s` to `t`, with some sleeps on the way, given by the worlds before and after them, a part of
the world changed during sleeps only. -/
def Untouched (part : σ → δ) : σ → List (σ × σ) → σ → Prop
  | s, [], t => part t = part s
  | s, (before, after) :: naps, t => part before = part s ∧ Untouched part after naps t

namespace Untouched

variable {part : σ → δ} {s t u : σ} {nap naps : List (σ × σ)}

theorem after (h : part t = part s) (hu : Untouched part t naps u) : Untouched part s naps u := by
  cases naps with
  | nil => exact Eq.trans hu h
  | cons nap naps => exact ⟨hu.1.trans h, hu.2⟩

theorem trans (hs : Untouched part s nap t) (ht : Untouched part t naps u) :
    Untouched part s (nap ++ naps) u := by
  induction nap generalizing s with
  | nil => exact ht.after hs
  | cons first nap ih => exact ⟨hs.1, ih hs.2⟩

/-- A part of what is untouched is untouched. -/
theorem map {γ : Type} (f : δ → γ) (h : Untouched part s naps t) :
    Untouched (fun s => f (part s)) s naps t := by
  induction naps generalizing s with
  | nil => exact congrArg f h
  | cons nap naps ih => exact ⟨congrArg f h.1, ih h.2⟩

theorem before (hs : Untouched part s naps t) (h : part u = part t) : Untouched part s naps u := by
  rw [← List.append_nil naps]
  exact hs.trans h

end Untouched

/-! ## One poll -/

section Polling

variable [Pace τ π]

namespace Poller

/-- How one poll goes, and the sleep in it. -/
inductive Stepped (poller : Poller σ τ π) (interval : π) (deadline : τ) (s : σ) :
    List (σ × σ) → Except Fault (Option Bool) → σ → Prop
  | obtained {t : σ} : poller.attempt s = (.ok true, t) →
      Stepped poller interval deadline s [] (.ok (some true)) t
  | untried {t : σ} {fault : Fault} : poller.attempt s = (.error fault, t) →
      Stepped poller interval deadline s [] (.error fault) t
  | untimed {t u : σ} {fault : Fault} : poller.attempt s = (.ok false, t) →
      poller.now t = (.error fault, u) → Stepped poller interval deadline s [] (.error fault) u
  /-- No time is left. -/
  | expired {t u : σ} {now : τ} : poller.attempt s = (.ok false, t) → poller.now t = (.ok now, u) →
      Pace.isOver (Pace.left deadline now) = true →
      Stepped poller interval deadline s [] (.ok (some false)) u
  | unpaused {t u : σ} {now : τ} {fault : Fault} : poller.attempt s = (.ok false, t) →
      poller.now t = (.ok now, u) → Pace.isOver (Pace.left deadline now) = false →
      Pace.pause interval (Pace.left deadline now) = .error fault →
      Stepped poller interval deadline s [] (.error fault) u
  | unslept {t u v : σ} {now : τ} {pause : π} {fault : Fault} :
      poller.attempt s = (.ok false, t) → poller.now t = (.ok now, u) →
      Pace.isOver (Pace.left deadline now) = false →
      Pace.pause interval (Pace.left deadline now) = .ok pause →
      poller.sleep pause u = (.error fault, v) →
      Stepped poller interval deadline s [(u, v)] (.error fault) v
  | slept {t u v : σ} {now : τ} {pause : π} : poller.attempt s = (.ok false, t) →
      poller.now t = (.ok now, u) → Pace.isOver (Pace.left deadline now) = false →
      Pace.pause interval (Pace.left deadline now) = .ok pause →
      poller.sleep pause u = (.ok (), v) →
      Stepped poller interval deadline s [(u, v)] (.ok none) v

/-- How polling goes in so many polls, and the sleeps in it. -/
inductive Polled (poller : Poller σ τ π) (interval : π) (deadline : τ) :
    Nat → σ → List (σ × σ) → Except Fault Bool → σ → Prop
  | ends {s t : σ} {nap : List (σ × σ)} {obtained : Bool} :
      Stepped poller interval deadline s nap (.ok (some obtained)) t →
      Polled poller interval deadline 1 s nap (.ok obtained) t
  | fails {s t : σ} {nap : List (σ × σ)} {fault : Fault} :
      Stepped poller interval deadline s nap (.error fault) t →
      Polled poller interval deadline 1 s nap (.error fault) t
  | again {tries : Nat} {s t u : σ} {nap naps : List (σ × σ)} {outcome : Except Fault Bool} :
      Stepped poller interval deadline s nap (.ok none) t →
      Polled poller interval deadline tries t naps outcome u →
      Polled poller interval deadline (tries + 1) s (nap ++ naps) outcome u

/-- A poller that leaves a part of the world alone, as long as it neither obtains anything nor
sleeps. -/
structure Calm (poller : Poller σ τ π) (part : σ → δ) : Prop where
  attempt : ∀ s, (poller.attempt s).1 ≠ .ok true → part (poller.attempt s).2 = part s
  now : ∀ s, part (poller.now s).2 = part s

variable {poller : Poller σ τ π} {interval : π} {deadline : τ} {s t : σ}
  {nap naps : List (σ × σ)} {outcome : Except Fault Bool} {tries bound : Nat}

/-! ## Polls and the step of the loop -/

theorem Stepped.step_eq {result : Except Fault (Option Bool)}
    (h : Stepped poller interval deadline s nap result t) :
    poller.step interval deadline s = (result, t) := by
  unfold step
  cases h with
  | obtained ha => exact Run.bind_ok _ ha
  | untried ha => exact Run.bind_error _ ha
  | untimed ha hn => exact (Run.bind_ok _ ha).trans (Run.bind_error _ hn)
  | expired ha hn ho =>
    rw [Run.bind_ok _ ha, if_neg Bool.false_ne_true, Run.bind_ok _ hn, if_pos ho]
    rfl
  | unpaused ha hn ho hp =>
    rw [Run.bind_ok _ ha, if_neg Bool.false_ne_true, Run.bind_ok _ hn,
      if_neg (Bool.eq_false_iff.1 ho), hp]
    rfl
  | unslept ha hn ho hp hs =>
    rw [Run.bind_ok _ ha, if_neg Bool.false_ne_true, Run.bind_ok _ hn,
      if_neg (Bool.eq_false_iff.1 ho), hp, Run.ofExcept_ok_bind]
    exact Run.bind_error _ hs
  | slept ha hn ho hp hs =>
    rw [Run.bind_ok _ ha, if_neg Bool.false_ne_true, Run.bind_ok _ hn,
      if_neg (Bool.eq_false_iff.1 ho), hp, Run.ofExcept_ok_bind]
    exact Run.bind_ok _ hs

/-- Every step is a poll. -/
theorem exists_stepped (poller : Poller σ τ π) (interval : π) (deadline : τ) (s : σ) :
    ∃ nap result t, Stepped poller interval deadline s nap result t := by
  rcases ha : poller.attempt s with ⟨fault | obtained, t⟩
  · exact ⟨_, _, _, .untried ha⟩
  cases obtained with
  | true => exact ⟨_, _, _, .obtained ha⟩
  | false =>
    rcases hn : poller.now t with ⟨fault | now, u⟩
    · exact ⟨_, _, _, .untimed ha hn⟩
    cases ho : Pace.isOver (Pace.left deadline now) with
    | true => exact ⟨_, _, _, .expired ha hn ho⟩
    | false =>
      cases hp : Pace.pause interval (Pace.left deadline now) with
      | error fault => exact ⟨_, _, _, .unpaused ha hn ho hp⟩
      | ok pause =>
        rcases hs : poller.sleep pause u with ⟨fault | _, v⟩
        · exact ⟨_, _, _, .unslept ha hn ho hp hs⟩
        · exact ⟨_, _, _, .slept ha hn ho hp hs⟩

/-! ## Polling -/

/-- **Polling goes as told**, if it may poll that often. -/
theorem Polled.run_eq (h : Polled poller interval deadline tries s naps outcome t)
    (hb : tries ≤ bound) : poller.run interval deadline bound s = (outcome, t) := by
  induction h generalizing bound with
  | ends hs => exact Run.untilSome_of_some hb hs.step_eq
  | fails hs => exact Run.untilSome_of_error hb hs.step_eq
  | again hs _ ih =>
    obtain ⟨bound, rfl⟩ := Nat.exists_eq_add_of_le' hb
    exact (Run.bind_ok _ hs.step_eq).trans (ih (Nat.le_add_left ..))

/-- Polling goes like that unless it uses up its bound. -/
theorem polled_or_exhausted (poller : Poller σ τ π) (interval : π) (deadline : τ) (bound : Nat)
    (s : σ) :
    (∃ tries naps outcome t, tries ≤ bound ∧
        Polled poller interval deadline tries s naps outcome t) ∨
      ∃ t, poller.run interval deadline bound s = (.error Problem.pollLimit.fault, t) := by
  induction bound generalizing s with
  | zero => exact .inr ⟨s, rfl⟩
  | succ bound ih =>
    obtain ⟨nap, result, t, hs⟩ := exists_stepped poller interval deadline s
    rcases result with fault | _ | obtained
    · exact .inl ⟨1, nap, _, t, Nat.le_add_left .., .fails hs⟩
    · obtain ⟨tries, naps, outcome, u, hle, hp⟩ | ⟨u, hu⟩ := ih t
      · exact .inl ⟨_, _, _, _, Nat.succ_le_succ hle, .again hs hp⟩
      · exact .inr ⟨u, (Run.bind_ok _ hs.step_eq).trans hu⟩
    · exact .inl ⟨1, nap, _, t, Nat.le_add_left .., .ends hs⟩

variable {part : σ → δ}

theorem Stepped.untouched (hc : poller.Calm part) {result : Except Fault (Option Bool)}
    (h : Stepped poller interval deadline s nap result t) (hr : result ≠ .ok (some true)) :
    Untouched part s nap t := by
  have failed {fault : Fault} {t : σ} (ha : poller.attempt s = (.error fault, t)) :
      part t = part s := by
    have := hc.attempt s
    rw [ha] at this
    exact this nofun
  have tried {now : Except Fault τ} {t u : σ} (ha : poller.attempt s = (.ok false, t))
      (hn : poller.now t = (now, u)) : part u = part s := by
    have hattempt := hc.attempt s
    have hnow := hc.now t
    rw [ha] at hattempt
    rw [hn] at hnow
    exact hnow.trans (hattempt (by simp))
  cases h with
  | obtained ha => exact absurd rfl hr
  | untried ha => exact failed ha
  | untimed ha hn => exact tried ha hn
  | expired ha hn _ => exact tried ha hn
  | unpaused ha hn _ _ => exact tried ha hn
  | unslept ha hn _ _ _ => exact ⟨tried ha hn, rfl⟩
  | slept ha hn _ _ _ => exact ⟨tried ha hn, rfl⟩

theorem Polled.untouched (hc : poller.Calm part)
    (h : Polled poller interval deadline tries s naps outcome t) (ho : outcome ≠ .ok true) :
    Untouched part s naps t := by
  induction h with
  | ends hs =>
    refine hs.untouched hc ?_
    rintro ⟨⟩
    exact ho rfl
  | fails hs => exact hs.untouched hc nofun
  | again hs _ ih => exact (hs.untouched hc nofun).trans (ih ho)

end Poller

end Polling

/-! ## Acquisitions of a cache mutex -/

namespace Cached

variable [Journal σ]

/-- How an acquisition goes, with so many tries and the sleeps between them, and how its wait ends. -/
inductive Ends (env : Surroundings σ) (lock : Cached σ) (time : Value) (unit : TimeUnit) (s : σ) :
    Nat → List (σ × σ) → Except Fault Bool → σ → Prop
  | unstarted {t : σ} {fault : Fault} : env.now s = (.error fault, t) →
      Ends env lock time unit s 0 [] (.error fault) t
  | unmeasured {t : σ} {start : Float} {fault : Fault} : env.now s = (.ok start, t) →
      unit.toSeconds time = .error fault → Ends env lock time unit s 0 [] (.error fault) t
  /-- The deadline cannot be told. -/
  | endless {t : σ} {start : Float} {seconds : Value} {fault : Fault} :
      env.now s = (.ok start, t) → unit.toSeconds time = .ok seconds →
      seconds.addedTo start = .error fault → Ends env lock time unit s 0 [] (.error fault) t
  | polled {t u : σ} {start deadline : Float} {seconds : Value} {tries : Nat}
      {naps : List (σ × σ)} {outcome : Except Fault Bool} :
      env.now s = (.ok start, t) → unit.toSeconds time = .ok seconds →
      seconds.addedTo start = .ok deadline →
      (lock.poller env).Polled lock.pollInterval deadline tries t naps outcome u →
      Ends env lock time unit s tries naps outcome u

/-- What a failed acquisition is to leave alone: what is stored in the cache, and the token. -/
def kept (lock : Cached σ) (stored : σ → δ) (s : σ) : δ × Option String :=
  (stored s, lock.token.read s)

/-- Surroundings in which these change during sleeps only, and where an addition succeeds. -/
structure Calm (env : Surroundings σ) (lock : Cached σ) (stored : σ → δ) : Prop where
  now : ∀ s, lock.kept stored (env.now s).2 = lock.kept stored s
  drawToken : ∀ s, lock.kept stored (env.drawToken s).2 = lock.kept stored s
  add : ∀ key token expire s, isGrant (env.add key token expire s).1 = false →
    lock.kept stored (env.add key token expire s).2 = lock.kept stored s
  noted : ∀ entry s, lock.kept stored (Journal.record entry s) = lock.kept stored s

variable {env : Surroundings σ} {lock : Cached σ} {time : Value} {unit : TimeUnit} {s t : σ}
  {tries : Nat} {naps : List (σ × σ)} {outcome : Except Fault Bool} {stored : σ → δ}

/-- **An acquisition goes as told**, if it may poll that often. -/
theorem acquire_of_ends (h : lock.Ends env time unit s tries naps outcome t)
    (hb : tries ≤ env.patience) :
    ∃ t', lock.acquire env time unit s = (outcome.map Value.bool, t') ∧ Noted t t' := by
  unfold acquire
  cases h with
  | unstarted hn => exact ⟨t, Run.bind_error _ hn, .refl t⟩
  | unmeasured hn hs =>
    rw [Run.bind_ok _ hn, hs]
    exact ⟨t, rfl, .refl t⟩
  | endless hn hs hd =>
    rw [Run.bind_ok _ hn, hs, Run.ofExcept_ok_bind, hd]
    exact ⟨t, rfl, .refl t⟩
  | polled hn hs hd hp =>
    rw [Run.bind_ok _ hn, hs, Run.ofExcept_ok_bind, hd, Run.ofExcept_ok_bind]
    have hrun := hp.run_eq hb
    rcases outcome with fault | _ | _
    · exact ⟨t, Run.bind_error _ hrun, .refl t⟩
    · rw [Run.bind_ok _ hrun]
      exact ⟨_, rfl, .record _ t⟩
    · rw [Run.bind_ok _ hrun]
      exact ⟨t, rfl, .refl t⟩

/-- Every acquisition goes like that, unless it uses up its bound. -/
theorem ends_or_exhausted (env : Surroundings σ) (lock : Cached σ) (time : Value) (unit : TimeUnit)
    (s : σ) :
    (∃ tries naps outcome t, tries ≤ env.patience ∧
        lock.Ends env time unit s tries naps outcome t) ∨
      ∃ t, lock.acquire env time unit s = (.error Problem.pollLimit.fault, t) := by
  rcases hn : env.now s with ⟨fault | start, t⟩
  · exact .inl ⟨_, _, _, _, Nat.zero_le _, .unstarted hn⟩
  cases hs : unit.toSeconds time with
  | error fault => exact .inl ⟨_, _, _, _, Nat.zero_le _, .unmeasured hn hs⟩
  | ok seconds =>
    cases hd : seconds.addedTo start with
    | error fault => exact .inl ⟨_, _, _, _, Nat.zero_le _, .endless hn hs hd⟩
    | ok deadline =>
      obtain ⟨tries, naps, outcome, u, hle, hp⟩ | ⟨u, hu⟩ :=
        (lock.poller env).polled_or_exhausted lock.pollInterval deadline env.patience t
      · exact .inl ⟨tries, naps, outcome, u, hle, .polled hn hs hd hp⟩
      · refine .inr ⟨u, ?_⟩
        unfold acquire
        rw [Run.bind_ok _ hn, hs, Run.ofExcept_ok_bind, hd, Run.ofExcept_ok_bind,
          Run.bind_error _ hu]

/-- A try that does not obtain the mutex leaves everything alone. -/
theorem Calm.attempt (hc : lock.Calm env stored)
    (h : (lock.attempt env.toCacheService s).1 ≠ .ok true) :
    lock.kept stored (lock.attempt env.toCacheService s).2 = lock.kept stored s := by
  have hdrawn := hc.drawToken s
  rcases hd : env.drawToken s with ⟨fault | token, t⟩
  · have hattempt : lock.attempt env.toCacheService s = (.error fault, t) := Run.bind_error _ hd
    rw [hattempt, ← hdrawn, hd]
  have hadded := hc.add lock.key token lock.expire t
  rw [hd] at hdrawn
  rcases ha : env.add lock.key token lock.expire t with ⟨fault | v, u⟩
  · rw [ha] at hadded
    rw [attempt_of_error hd ha]
    exact (hadded rfl).trans hdrawn
  · rw [ha] at hadded
    cases hv : v.isTruthy with
    | true =>
      obtain ⟨u', hu', -⟩ := attempt_of_truthy hd ha hv
      rw [hu'] at h
      exact absurd rfl h
    | false =>
      rw [attempt_of_falsy hd ha hv]
      exact (hadded hv).trans hdrawn

theorem Calm.poller (hc : lock.Calm env stored) : (lock.poller env).Calm (lock.kept stored) where
  attempt _ h := hc.attempt h
  now := hc.now

/-- **A wait that does not obtain the mutex leaves everything alone**, its sleeps aside. -/
theorem Ends.untouched (hc : lock.Calm env stored)
    (h : lock.Ends env time unit s tries naps outcome t) (ho : outcome ≠ .ok true) :
    Untouched (lock.kept stored) s naps t := by
  have started {start : Except Fault Float} {t : σ} (hn : env.now s = (start, t)) :
      lock.kept stored t = lock.kept stored s := by
    have := hc.now s
    rwa [hn] at this
  cases h with
  | unstarted hn => exact started hn
  | unmeasured hn _ => exact started hn
  | endless hn _ _ => exact started hn
  | polled hn _ _ hp => exact (hp.untouched hc.poller ho).after (started hn)

end Cached

end TimedLock.Lock
