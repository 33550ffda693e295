import TimedLock.Proofs.Holding.Program

/-!
# What the handler of a locked call is told

**Theorem (`toldTruly_iff`).** The phase that a handler is told is the phase that failed, except in
one situation: the lock was obtained, the work ended with an acquisition fault, and the release
after it let that fault pass. Work that takes other locks can end with such a fault
(`toldFalsely_of_nested`), and the handler is then told that the lock of its own call was not
obtained.

The reason is that the phase is read off the kind of the fault. A refused lock always gives an
acquisition fault (`refusal_isAcquisition`), but so can the work.

Whether a handler is invoked is stated without looking into the call: the call invokes its handler
when it does what the handler does, whichever handler it was given. In the same way the work was
never started when the call does the same with any other work in its place.
-/

namespace TimedLock.Holding

/-- A locked call that is about to be given a handler. -/
structure Call (σ : Type) where
  /-- Whether the result of the work is wanted. -/
  keeps : Bool
  lock : Handle σ
  timeout : Value
  unit : Option TimeUnit
  work : Run σ Value

namespace Call

variable {σ : Type} [Journal σ]

/-- The call with its handler. -/
def run (c : Call σ) (handler : Handler σ Value) : Run σ Value :=
  lockedCall c.keeps c.lock c.timeout c.unit c.work (some handler)

/-- How the call ends after its handler: with the result of the handler, if results are wanted. -/
def afterHandler (c : Call σ) (reaction : Run σ Value) : Run σ Value :=
  if c.keeps then reaction
  else do
    let _ ← reaction
    pure .null

/-! ## What may have happened -/

/-- From `s`, the handler is invoked in `t`: whatever the handler does there, the call does. -/
def Invokes (c : Call σ) (s : σ) (phase : Phase) (fault : Fault) (t : σ) : Prop :=
  ∀ handler : Handler σ Value, c.run handler s = c.afterHandler (handler phase fault) t

/-- The handler is invoked without the work having been started: any other work would do. -/
def InvokesUnstarted (c : Call σ) (s : σ) (phase : Phase) (fault : Fault) (t : σ) : Prop :=
  ∀ other : Run σ Value, { c with work := other }.Invokes s phase fault t

/-- The lock of the call is obtained. -/
def Obtains (c : Call σ) (s : σ) : Prop :=
  ∃ time u, Timeout.resolve c.timeout c.unit = .ok (time, u) ∧
    isGrant (c.lock.acquire time u s).1 = true

/-- The lock is obtained, and the work ends with a fault. -/
def Raises (c : Call σ) (s : σ) (fault : Fault) : Prop :=
  ∃ time u, Timeout.resolve c.timeout c.unit = .ok (time, u) ∧
    isGrant (c.lock.acquire time u s).1 = true ∧
    (c.work (c.lock.acquire time u s).2).1 = .error fault

/-- The same, and the release after the work lets the fault pass. -/
def RaisesQuietly (c : Call σ) (s : σ) (fault : Fault) : Prop :=
  ∃ time u, Timeout.resolve c.timeout c.unit = .ok (time, u) ∧
    isGrant (c.lock.acquire time u s).1 = true ∧
    (c.work (c.lock.acquire time u s).2).1 = .error fault ∧
    isLoud (c.lock.release (c.work (c.lock.acquire time u s).2).2).1 = false

/-- **The kind of error tells the phase.** A handler that is invoked is told of the acquisition
exactly when the lock was not obtained and the work was never started, and of the operation exactly
when the lock was obtained and the work ended with the fault that the handler is given. -/
def ToldTruly (c : Call σ) (s : σ) : Prop :=
  ∀ phase fault t, c.Invokes s phase fault t →
    (phase = .acquisition ↔ ¬ c.Obtains s ∧ c.InvokesUnstarted s phase fault t) ∧
      (phase = .operation ↔ c.Obtains s ∧ c.Raises s fault)

variable {c : Call σ} {s t : σ} {time : Value} {u : TimeUnit} {phase : Phase} {fault : Fault}

/-! ## When a handler is invoked -/

/-- A locked call keeps or drops its result in the end, with or without a handler. -/
theorem lockedCall_eq (c : Call σ) (handler : Option (Handler σ Value)) :
    lockedCall c.keeps c.lock c.timeout c.unit c.work handler
      = c.afterHandler (callLocked (some c.lock) c.timeout c.unit c.work handler) := by
  unfold lockedCall afterHandler useLock
  cases c.keeps with
  | true => rfl
  | false => simp only [Bool.false_eq_true, if_false, bind_assoc, pure_bind]

/-- The call is its work under the lock with the handler after it. -/
theorem run_apply (c : Call σ) (handler : Handler σ Value) (s : σ) :
    c.run handler s
      = c.afterHandler (callLocked (some c.lock) c.timeout c.unit c.work (some handler)) s :=
  congrFun (c.lockedCall_eq (some handler)) s

omit [Journal σ] in
theorem afterHandler_congr {x y : Run σ Value} (h : x s = y t) :
    c.afterHandler x s = c.afterHandler y t := by
  unfold afterHandler
  cases c.keeps with
  | true => exact h
  | false => simp only [Bool.false_eq_true, if_false, Run.bind_apply, h]

omit [Journal σ] in
theorem afterHandler_of_error {x : Run σ Value} (h : x s = (.error fault, t)) :
    c.afterHandler x s = (.error fault, t) := by
  unfold afterHandler
  cases c.keeps with
  | true => exact h
  | false => exact Run.bind_error _ h

section Probe

open Classical

/-- A handler that tells one invocation from all others by the fault that it ends with. -/
noncomputable def probe (phase : Phase) (fault : Fault) (t : σ) : Handler σ Value :=
  fun phase' fault' t' =>
    (.error (.simple (if phase' = phase ∧ fault' = fault ∧ t' = t then .general else .runtime)
      none), t')

omit [Journal σ] in
theorem afterHandler_probe (phase' : Phase) (fault' : Fault) (t' : σ) :
    c.afterHandler (probe phase fault t phase' fault') t'
      = (.error (.simple (if phase' = phase ∧ fault' = fault ∧ t' = t then .general else .runtime)
          none), t') :=
  afterHandler_of_error rfl

/-- A handler is invoked in one way only. -/
theorem Invokes.unique {phase' : Phase} {fault' : Fault} {t' : σ} (h : c.Invokes s phase fault t)
    (h' : c.Invokes s phase' fault' t') : phase' = phase ∧ fault' = fault ∧ t' = t := by
  have hp := (h (probe phase fault t)).symm.trans (h' (probe phase fault t))
  rw [afterHandler_probe, afterHandler_probe, if_pos ⟨rfl, rfl, rfl⟩] at hp
  by_cases he : phase' = phase ∧ fault' = fault ∧ t' = t
  · exact he
  · rw [if_neg he] at hp
    cases hp

end Probe

/-- A call that ends in one way whatever its handler does not invoke it. -/
theorem Invokes.not_const {x : Except Fault Value × σ} (h : c.Invokes s phase fault t)
    (hc : ∀ handler, c.run handler s = x) : False := by
  have hp (kind : FaultKind) : x = (.error (.simple kind none), t) :=
    (hc fun _ _ => .fail (.simple kind none)).symm.trans ((h _).trans (afterHandler_of_error rfl))
  cases (hp .general).symm.trans (hp .runtime)

/-- **A handler is invoked** exactly when the work under the lock ends with an ordinary fault, and
is told what the kind of that fault speaks of. -/
theorem invokes_iff : c.Invokes s phase fault t ↔
    ∃ time u, Timeout.resolve c.timeout c.unit = .ok (time, u) ∧
      hold (some c.lock) time (some u) c.work s = (.error fault, t) ∧
      fault.isOrdinary = true ∧ phase = phaseOf fault := by
  have hinvokes {fault t}
      (hcall : ∀ handler, callLocked (some c.lock) c.timeout c.unit c.work (some handler) s
        = handler (phaseOf fault) fault t) : c.Invokes s (phaseOf fault) fault t := by
    intro handler
    rw [run_apply]
    exact afterHandler_congr (hcall handler)
  constructor
  · intro h
    cases hres : Timeout.resolve c.timeout c.unit with
    | error rejection =>
      refine (h.not_const (x := (.error rejection, s)) fun handler => ?_).elim
      rw [run_apply]
      exact afterHandler_of_error (callLocked_of_rejection c.work _ hres)
    | ok resolved =>
      rcases hh : hold (some c.lock) resolved.1 (some resolved.2) c.work s with ⟨outcome, v⟩
      rcases callLocked_cases hres hh with ⟨fault', rfl, hf, hcall⟩ | hcall
      · obtain ⟨rfl, rfl, rfl⟩ := h.unique (hinvokes hcall)
        exact ⟨_, _, rfl, hh, hf, rfl⟩
      · refine (h.not_const (x := c.afterHandler (.ofExcept outcome) v) fun handler => ?_).elim
        rw [run_apply]
        exact afterHandler_congr (hcall handler)
  · rintro ⟨time, u, hres, hh, hf, rfl⟩
    exact hinvokes (callLocked_of_ordinary hres hh hf)

/-! ## What it is told -/

omit [Journal σ] in
theorem RaisesQuietly.raises (h : c.RaisesQuietly s fault) : c.Raises s fault := by
  obtain ⟨time, u, hres, hg, hw, -⟩ := h
  exact ⟨time, u, hres, hg, hw⟩

omit [Journal σ] in
theorem Raises.obtains (h : c.Raises s fault) : c.Obtains s := by
  obtain ⟨time, u, hres, hg, -⟩ := h
  exact ⟨time, u, hres, hg⟩

/-- Where the lock is not obtained, the handler is told so, and the work was never started. -/
theorem Invokes.of_not_obtains (h : c.Invokes s phase fault t) (hn : ¬ c.Obtains s) :
    phase = .acquisition ∧ c.InvokesUnstarted s phase fault t := by
  obtain ⟨time, u, hres, hh, hf, rfl⟩ := invokes_iff.1 h
  have hg : isGrant (c.lock.acquire time u s).1 = false :=
    Bool.eq_false_iff.2 fun hg => hn ⟨time, u, hres, hg⟩
  obtain ⟨t', ht, -⟩ := hold_of_refusal (α := Value) (Timeout.resolve_resolve hres) rfl hg
  have hr := hh.symm.trans (ht c.work)
  cases hr
  refine ⟨?_, fun other => invokes_iff.2 ⟨time, u, hres, ht other, hf, rfl⟩⟩
  unfold phaseOf
  rw [if_pos (refusal_isAcquisition time u _ hf)]

/-- Where the lock is obtained, the handler is given the fault of the work. -/
theorem Invokes.of_obtains (h : c.Invokes s phase fault t) (ho : c.Obtains s) :
    c.RaisesQuietly s fault ∧ phase = phaseOf fault := by
  obtain ⟨time, u, hres, hg⟩ := ho
  obtain ⟨time', u', hres', hh, hf, rfl⟩ := invokes_iff.1 h
  cases hres.symm.trans hres'
  rcases hw : c.work (c.lock.acquire time u s).2 with ⟨outcome, v⟩
  rcases hr : c.lock.release v with ⟨back, w⟩
  obtain ⟨w', hh', -⟩ := hold_of_grant (Timeout.resolve_resolve hres) rfl hg hw hr
  have hout : afterRelease outcome back = .error fault := congrArg Prod.fst (hh'.symm.trans hh)
  cases hl : isLoud back with
  | false =>
    rw [afterRelease_of_quiet outcome hl] at hout
    refine ⟨⟨time, u, hres, hg, ?_, ?_⟩, rfl⟩
    · rw [hw, hout]
    · rw [hw, hr, hl]
  | true =>
    obtain ⟨loud, hloud, hnot⟩ := afterRelease_of_loud outcome hl
    rw [hloud] at hout
    cases hout
    cases hf.symm.trans hnot

/-- A fault of the work that the release lets pass goes to the handler if it is ordinary. -/
theorem RaisesQuietly.invokes (h : c.RaisesQuietly s fault) (hf : fault.isOrdinary = true) :
    ∃ t, c.Invokes s (phaseOf fault) fault t := by
  obtain ⟨time, u, hres, hg, hw, hl⟩ := h
  rcases hwork : c.work (c.lock.acquire time u s).2 with ⟨outcome, v⟩
  rcases hr : c.lock.release v with ⟨back, w⟩
  rw [hwork] at hw hl
  rw [hr] at hl
  cases hw
  obtain ⟨w', hh, -⟩ := hold_of_grant (Timeout.resolve_resolve hres) rfl hg hwork hr
  rw [afterRelease_of_quiet _ hl] at hh
  exact ⟨w', invokes_iff.2 ⟨time, u, hres, hh, hf, rfl⟩⟩

/-- An acquisition fault of the work is told as one of the call. -/
theorem RaisesQuietly.not_toldTruly (h : c.RaisesQuietly s fault)
    (hf : fault.isAcquisition = true) : ¬ c.ToldTruly s := by
  intro htold
  obtain ⟨t, ht⟩ := h.invokes (FaultKind.isOrdinary_of_isAcquisition hf)
  have hp : phaseOf fault = .acquisition := if_pos hf
  exact ((htold _ _ _ ht).1.1 hp).1 h.raises.obtains

/-- **When the kind of error tells the phase.** It does unless the lock was obtained, the work ended
with an acquisition fault of its own, and the release let that fault pass. -/
theorem toldTruly_iff (c : Call σ) (s : σ) :
    c.ToldTruly s ↔ ¬ ∃ fault, c.RaisesQuietly s fault ∧ fault.isAcquisition = true := by
  constructor
  · rintro htold ⟨fault, h, hf⟩
    exact h.not_toldTruly hf htold
  · intro hnone phase fault t ht
    by_cases ho : c.Obtains s
    · obtain ⟨hq, rfl⟩ := ht.of_obtains ho
      have hp : phaseOf fault = .operation := if_neg fun hf => hnone ⟨fault, hq, hf⟩
      rw [hp]
      exact ⟨iff_of_false Phase.noConfusion fun h => h.1 ho, iff_of_true rfl ⟨ho, hq.raises⟩⟩
    · obtain ⟨rfl, hu⟩ := ht.of_not_obtains ho
      exact ⟨iff_of_true rfl ⟨ho, hu⟩, iff_of_false Phase.noConfusion fun h => ho h.1⟩

/-! ## Locks within locks -/

/-- A lock that gives every acquisition the same answer. -/
def answering (answer : Bool) : Handle σ where
  acquire _ _ := pure (.bool answer)
  release := pure .null
  isHeld := pure (.bool answer)
  describe _ := if answer then "free" else "taken"

/-- A call whose lock is free and whose work takes a lock that is not. -/
def nested : Call (List Entry) where
  keeps := true
  lock := answering true
  timeout := .int 1
  unit := none
  work := do
    acquire (answering false) (.int 0) none
    pure .null

/-- The fault of the work under the outer lock is told as a failure to obtain that lock. -/
theorem toldFalsely_of_nested : ¬ nested.ToldTruly [] := by
  have h : nested.RaisesQuietly [] (refusal (.int 0) .seconds (.ok (.bool false))) :=
    ⟨.int 1, .seconds, rfl, rfl, rfl, rfl⟩
  exact h.not_toldTruly rfl

end Call

end TimedLock.Holding
