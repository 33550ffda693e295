import TimedLock.Proofs.Holding.Stages
import TimedLock.Proofs.Lock.CachedWait
import TimedLock.Task.Guard

/-!
# What a guarded call does to the cache

**Theorem (`call_cases`).** A guarded call either does nothing to the cache but let time pass, and
then the task is not started; or it adds the key of its task, which was free, runs the task in the
world that this leaves, and ends as the task ended. In the second case the key is deleted if and
only if the token of the call is still under it when the task ends (`settle`).
-/

namespace TimedLock.Task.Guard

open Lock

section Call

variable {σ τ γ : Type} [Journal σ] [Preorder τ] [DecidableLE τ] [Add τ]

/-- How an owner leaves its key: deleted, if its token is still under it. -/
def settle (v : View τ γ) (a : Addition τ) : View τ γ :=
  if v.isUnder a.key a.token then v.erase a.key else v

variable {env : Surroundings σ} {view : σ → View τ γ} {lifetimes : Lifetimes τ}

omit [Preorder τ] [DecidableLE τ] [Add τ] in
/-- The name of a call depends on its arguments alone. -/
theorem lockName_apply (guard : Guard) (args : Arguments) (s : σ) :
    ∃ t, guard.lockName args s = ((guard.lockName args s).1, t) ∧ Noted s t := by
  unfold lockName
  by_cases hp : guard.param.isTruthy = true
  · rw [if_pos hp]
    cases paramValue args guard.param with
    | error fault => exact ⟨s, rfl, .refl s⟩
    | ok value =>
      rw [Run.ofExcept_ok_bind]
      by_cases hn : value.isNull = true
      · rw [if_pos hn]
        exact ⟨_, rfl, .record _ _⟩
      · rw [if_neg hn]
        exact ⟨s, rfl, .refl s⟩
  · rw [if_neg hp]
    exact ⟨s, rfl, .refl s⟩

omit [Preorder τ] [DecidableLE τ] [Add τ] in
theorem skip_apply (name : Value) (fault : Fault) (s : σ) :
    ∃ outcome t, skip name fault s = (outcome, t) ∧ Noted s t := by
  unfold skip
  by_cases hk : fault.kind = .acquisitionTimeout
  · rw [if_pos hk]
    exact ⟨_, s, rfl, .refl s⟩
  · rw [if_neg hk]
    exact ⟨_, _, rfl, .record _ _⟩

/-! ## Work under the mutex of a call -/

/-- The mutex of a call, set up. -/
def callDesign (name expire : Value) : Design := ⟨name, expire, defaultPollInterval⟩

/-- All that is private to a call is its token. -/
def callPart : Slot (Option String) (Option String) := ⟨id, fun own _ => own⟩

/-- The mutex of a call. -/
def callMutex (name expire : Value) : Cached (σ × Option String) :=
  (callDesign name expire).mutex callPart

/-- What a call added. -/
def callAddition (name expire : Value) (token : String) (clock : τ) : Addition τ :=
  ⟨cacheKey name, token, expire, clock⟩

/-- The release after the work settles what the call added. It fails quietly where the token is no
longer under the key. -/
theorem release_settles (h : Faithful env.toCacheService view lifetimes) (name expire : Value)
    (token : String) (clock : τ) (s : σ) :
    ∃ back w, (callMutex name expire).release env.shared.toCacheService (s, some token)
        = (back, w) ∧ Holding.isLoud back = false ∧
      view w.1 = settle (view s) (callAddition name expire token clock) := by
  cases hown : (view s).isUnder (cacheKey name) token with
  | true =>
    obtain ⟨t, ht, hv⟩ :=
      release_of_owner h (callDesign name expire) callPart (s, some token) hown
    refine ⟨_, _, ht, rfl, ?_⟩
    rw [hv]
    exact (if_pos hown).symm
  | false =>
    obtain ⟨t, ht, hv⟩ :=
      release_of_stranger h (callDesign name expire) callPart (s, some token) hown
    refine ⟨_, _, ht, rfl, ?_⟩
    rw [hv]
    exact (if_neg (Bool.eq_false_iff.1 hown)).symm

/-- What came of work under the mutex of a call, from the world `s` to a world `t`. -/
inductive Came (view : σ → View τ γ) (lifetimes : Lifetimes τ) (name expire : Value)
    (work : Run σ Value) (s : σ) (outcome : Except Fault Value) (t : σ) : Prop
  /-- The work was not started. -/
  | skipped : (view s).Passes (view t) → Came view lifetimes name expire work s outcome t
  /-- The work ran from the world `u`. -/
  | ran {v : View τ γ} {token : String} {u : σ} : (view s).Passes v →
      v.live (cacheKey name) = none → token ∉ v.drawn →
      view u = (v.draw token).add lifetimes (cacheKey name) token expire →
      outcome = (work u).1 →
      view t = settle (view (work u).2) (callAddition name expire token v.clock) →
      Came view lifetimes name expire work s outcome t

/-- A handler that only writes to the journal. -/
def Journals (handler : Holding.Handler (σ × Option String) (Except Fault Value)) : Prop :=
  ∀ phase fault w, ∃ outcome w', handler phase fault w = (outcome, w') ∧ Noted w w'

/-- A handler that only writes to the journal leaves a result of the work under the lock alone. -/
theorem callLocked_of_journals {lock : Handle (σ × Option String)} {timeout time : Value}
    {unit : Option TimeUnit} {u : TimeUnit} {work : Run (σ × Option String) (Except Fault Value)}
    {outcome : Except Fault (Except Fault Value)} {w w' : σ × Option String}
    {handler : Holding.Handler (σ × Option String) (Except Fault Value)}
    (hres : Timeout.resolve timeout unit = .ok (time, u))
    (hh : Holding.hold (some lock) time (some u) work w = (outcome, w'))
    (hhandler : Journals handler) :
    ∃ outcome' v, Holding.callLocked (some lock) timeout unit work (some handler) w
        = (outcome', v) ∧ Noted w' v ∧ ∀ a, outcome = .ok a → outcome' = .ok a := by
  rcases Holding.callLocked_cases hres hh with ⟨fault, rfl, -, hcall⟩ | hcall
  · obtain ⟨outcome', v, hv, hn⟩ := hhandler (Holding.phaseOf fault) fault w'
    refine ⟨outcome', v, ?_, hn, by rintro _ ⟨⟩⟩
    rw [hcall, hv]
  · exact ⟨outcome, w', hcall handler, .refl w', fun _ he => he⟩

/-- The work of a call travels through the locked call as a result, so a fault of the locked call
always means that the work did not run. -/
theorem callLocked_came (h : FaithfulSurroundings env view lifetimes) (name : Value)
    {expire : Value} (hx : lifetimes.admits expire) (work : Run σ Value) (s : σ)
    {handler : Holding.Handler (σ × Option String) (Except Fault Value)}
    (hhandler : Journals handler) :
    ∃ outcome w, Holding.callLocked (some ((callMutex name expire).handle env.shared)) (.int 0) none
        work.inShared.attempt (some handler) (s, none) = (outcome, w) ∧
      Came view lifetimes name expire work s (outcome >>= id) w.1 := by
  have hres : Timeout.resolve (.int 0) none = .ok (.int 0, .seconds) := rfl
  have htries : Tries view lifetimes (callDesign name expire) callPart Value.isTruthy
      ((callMutex name expire).acquire env.shared (.int 0) .seconds) := acquire_tries h hx _ _
  have htried := htries (s, none)
  rcases hacq : (callMutex name expire).acquire env.shared (.int 0) .seconds (s, none)
    with ⟨answer, w⟩
  rw [hacq] at htried
  cases htried with
  | @missed _ t hbad hp =>
    have hgrant : Holding.isGrant answer = false := by
      cases answer with
      | ok v => exact hbad v rfl
      | error fault => rfl
    have hlock : ((callMutex name expire).handle env.shared).acquire (.int 0) .seconds (s, none)
        = (answer, t, none) := hacq
    obtain ⟨w, hh, hn⟩ := Holding.hold_of_refusal (Timeout.resolve_resolve hres) hlock hgrant
    obtain ⟨outcome, w', hw', hn', -⟩ :=
      callLocked_of_journals hres (hh work.inShared.attempt) hhandler
    refine ⟨outcome, w', hw', .skipped ?_⟩
    rw [h.noted hn'.shared, h.noted hn.shared]
    exact hp
  | @obtained v token u a hgood hp hfree hfresh hu =>
    have hlock : ((callMutex name expire).handle env.shared).acquire (.int 0) .seconds (s, none)
        = (.ok a, u, some token) := hacq
    have hwork : work.inShared.attempt (u, some token)
        = (.ok (work u).1, (work u).2, some token) := rfl
    obtain ⟨back, w, hrel, hquiet, hsettled⟩ :=
      release_settles h.toFaithful name expire token v.clock (work u).2
    have hback : ((callMutex name expire).handle env.shared).release ((work u).2, some token)
        = (back, w) := hrel
    obtain ⟨w', hh, hn⟩ :=
      Holding.hold_of_grant (Timeout.resolve_resolve hres) hlock hgood hwork hback
    rw [Holding.afterRelease_of_quiet _ hquiet] at hh
    obtain ⟨outcome, w'', hw'', hn', hok⟩ := callLocked_of_journals hres hh hhandler
    refine ⟨outcome, w'', hw'', .ran hp hfree hfresh hu ?_ ?_⟩
    · rw [hok _ rfl]
      rfl
    · rw [h.noted hn'.shared, h.noted hn.shared, hsettled]

/-- What a call does about a fault of its locked call. -/
def onFault (name : Value) : Holding.Handler (σ × Option String) (Except Fault Value) :=
  fun phase fault =>
    match phase with
    | .operation => .fail fault
    | .acquisition => Except.ok <$> skip name fault

omit [Preorder τ] [DecidableLE τ] [Add τ] in
theorem onFault_of_skip {name : Value} {fault : Fault} {w v : σ × Option String}
    {outcome : Except Fault Value} (h : skip name fault w = (outcome, v)) :
    onFault name .acquisition fault w = (Except.ok <$> outcome, v) := by
  cases outcome with
  | ok payload => exact Run.bind_ok _ h
  | error fault => exact Run.bind_error _ h

omit [Preorder τ] [DecidableLE τ] [Add τ] in
theorem onFault_journals (name : Value) :
    Journals (onFault name : Holding.Handler (σ × Option String) _) := by
  intro phase fault w
  cases phase with
  | operation => exact ⟨_, w, rfl, .refl w⟩
  | acquisition =>
    obtain ⟨outcome, t, hs, hn⟩ := skip_apply name fault w
    exact ⟨_, t, onFault_of_skip hs, hn⟩

omit [Preorder τ] [DecidableLE τ] [Add τ] in
/-- The locked call of a guarded one ends with how the work ended. -/
theorem underMutex_of_callLocked {name expire : Value} {work : Run σ Value}
    {w w' : σ × Option String} {outcome : Except Fault (Except Fault Value)}
    (h : Holding.callLocked (some ((callMutex name expire).handle env.shared)) (.int 0) none
      work.inShared.attempt (some (onFault name)) w = (outcome, w')) :
    underMutex env name expire work w = (outcome >>= id, w') := by
  cases outcome with
  | ok a => exact Run.bind_ok _ h
  | error fault => exact Run.bind_error _ h

/-- **Work under the mutex of a call.** -/
theorem underMutex_came (h : FaithfulSurroundings env view lifetimes) (name : Value)
    {expire : Value} (hx : lifetimes.admits expire) (work : Run σ Value) (s : σ) :
    ∃ outcome w, underMutex env name expire work (s, none) = (outcome, w) ∧
      Came view lifetimes name expire work s outcome w.1 := by
  obtain ⟨outcome, w, hw, hcame⟩ :=
    callLocked_came h name hx work s (onFault_journals name)
  exact ⟨outcome >>= id, w, underMutex_of_callLocked hw, hcame⟩

/-- **A guarded call** is skipped, or runs its task under the key of its name. -/
theorem call_cases (h : FaithfulSurroundings env view lifetimes) (guard : Guard)
    {fallback : Value} (hx : lifetimes.admits (guard.expire.orElse fallback)) (args : Arguments)
    (task : Arguments → Run σ Value) (s : σ) :
    ∃ outcome t, guard.call env fallback args task s = (outcome, t) ∧
      ((view s).Passes (view t) ∨
        ∃ name, (guard.lockName args s).1 = .ok name ∧
          Came view lifetimes name (guard.expire.orElse fallback) (task args) s outcome t) := by
  obtain ⟨u, hname, hn⟩ := lockName_apply guard args s
  have hu : view u = view s := h.noted hn
  unfold call
  cases hl : (guard.lockName args s).1 with
  | error fault =>
    rw [hl] at hname
    refine ⟨.error fault, u, Run.bind_error _ hname, .inl ?_⟩
    rw [hu]
    exact .refl _
  | ok name =>
    rw [hl] at hname
    obtain ⟨outcome, w, hw, hcame⟩ := underMutex_came h name hx (task args) u
    refine ⟨outcome, w.1, ?_, .inr ⟨name, rfl, ?_⟩⟩
    · rw [Run.bind_ok _ hname, Run.withPrivate_apply, hw]
    · cases hcame with
      | skipped hp =>
        rw [hu] at hp
        exact .skipped hp
      | ran hp hfree hfresh hadd hout hend =>
        rw [hu] at hp
        exact .ran hp hfree hfresh hadd hout hend

end Call

end TimedLock.Task.Guard
