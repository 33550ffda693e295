import TimedLock.Proofs.Lock.CachedAgreement
import TimedLock.Proofs.Lock.CachedOutcomes
import TimedLock.Proofs.Lock.MemoryCache
import TimedLock.Proofs.Task.GuardedCall

/-!
# The guard is transparent

**Theorem (`transparent`).** Whatever the cache answers, and wherever it fails, a guarded call whose
lock name is known adds the key of that name once and never sleeps. It runs the task at most once,
with the arguments it was given, and runs it exactly if the cache answered the addition with
something that counts as true. If the task ran, the call ends as the task did, unless the release
after it ends with a demand to stop the program; if it did not, the caller gets a payload that says
why, and the cache is asked nothing more (`Transcript`).

What a call does is read off a list of what was done (`Touch`), which is kept beside the world and
changes nothing (`call_recording_agree`). The only thing taken on trust is the clock, which never goes
back (`Lock.Ticks`).
-/

namespace TimedLock.Task

open Lock

/-! ## What is written down -/

/-- What a guarded call does: to the cache, to the time, and with its task. -/
inductive Touch
  | added (key token : String) (expire : Value) (answer : Except Fault Value)
  | got (key : String) (answer : Except Fault Value)
  | deleted (key : String) (answer : Except Fault Unit)
  | slept (pause : Value) (answer : Except Fault Unit)
  | ran (args : Arguments) (outcome : Except Fault Value)

variable {σ : Type}

/-- The world of a call: everything else, what was written down, and the token of its mutex. -/
abbrev CallWorld (σ : Type) := (σ × List Touch) × Option String

/-- Surroundings where what is asked of the cache is written down, and every sleep. -/
def recording (env : Surroundings σ) : Surroundings (σ × List Touch) where
  add key token expire := (env.add key token expire).logged (.added key token expire)
  get key := (env.get key).logged (.got key)
  delete key := (env.delete key).logged (.deleted key)
  drawToken := env.drawToken.inShared
  now := env.now.inShared
  sleep pause := (env.sleep pause).logged (.slept pause)
  patience := env.patience

/-- A task whose runs are written down. -/
def recordingTask (task : Arguments → Run σ Value) (args : Arguments) : Run (σ × List Touch) Value :=
  (task args).logged (.ran args)

/-! ## What is to be shown -/

/-- What was written down about a release by the owner of a token, with how the release ended. -/
inductive Closing (name : Value) (token : String) : Except Fault Value → List Touch → Prop
  | unreadable (fault : Fault) :
      Closing name token (.error fault) [.got (cacheKey name) (.error fault)]
  | foreign {v : Value} : v.isText token = false →
      Closing name token (.error (Problem.taskLockNotHeld name).fault) [.got (cacheKey name) (.ok v)]
  | undeletable {v : Value} (fault : Fault) : v.isText token = true →
      Closing name token (.error fault)
        [.got (cacheKey name) (.ok v), .deleted (cacheKey name) (.error fault)]
  | deleted {v : Value} : v.isText token = true →
      Closing name token (.ok .null)
        [.got (cacheKey name) (.ok v), .deleted (cacheKey name) (.ok ())]

/-- What was written down about a guarded call, with how the call ended. -/
inductive Transcript (name expire : Value) (args : Arguments) :
    Except Fault Value → List Touch → Prop
  /-- The key was there. -/
  | taken (token : String) {v : Value} : v.isTruthy = false →
      Transcript name expire args
        (.ok (skipped "task_already_running" s!"Task {name.display} is already running"))
        [.added (cacheKey name) token expire (.ok v)]
  /-- The key could not be added. -/
  | failed (token : String) {fault : Fault} : fault.isOrdinary = true →
      Transcript name expire args
        (.ok (skipped "lock_acquisition_failed" s!"Failed to acquire lock for {name.display}"))
        [.added (cacheKey name) token expire (.error fault)]
  /-- The addition ended with a demand to stop the program. -/
  | stopped (token : String) {fault : Fault} : fault.isOrdinary = false →
      Transcript name expire args (.error fault)
        [.added (cacheKey name) token expire (.error fault)]
  /-- The task ran, and the release after it succeeded or failed quietly. -/
  | ran {token : String} {v : Value} (outcome : Except Fault Value) {back : Except Fault Value}
      {touches : List Touch} : v.isTruthy = true → Closing name token back touches →
      Holding.isLoud back = false →
      Transcript name expire args outcome
        (.added (cacheKey name) token expire (.ok v) :: .ran args outcome :: touches)
  /-- The task ran, and the release after it ended with a demand to stop the program. -/
  | cutShort {token : String} {v : Value} (outcome : Except Fault Value) {fault : Fault}
      {touches : List Touch} : v.isTruthy = true → Closing name token (.error fault) touches →
      fault.isOrdinary = false →
      Transcript name expire args (.error fault)
        (.added (cacheKey name) token expire (.ok v) :: .ran args outcome :: touches)

/-! ## Writing down changes nothing -/

theorem recording_agree (env : Surroundings σ) : (recording env).Agree Run.Shares env where
  add _ _ _ := .logged _ _
  get _ := .logged _ _
  delete _ := .logged _ _
  drawToken := .inShared _
  now := .inShared _
  sleep _ := .logged _ _
  patience := rfl

section Agreement

variable {ω : Type} [Journal ω] [Journal σ] {R : ω → σ → Prop} {env : Surroundings ω}
  {env' : Surroundings σ}

theorem lockName_agree (hR : Run.Journaled R) (guard : Guard) (args : Arguments) :
    Run.Agree R (guard.lockName args) (guard.lockName args) := by
  unfold Guard.lockName
  refine Run.Agree.ite ((Run.Agree.ofExcept _).bind fun value => ?_) (.pure _)
  exact Run.Agree.ite ((Run.Agree.note hR _ _ _).bind fun _ => .pure _) (.pure _)

theorem skip_agree (hR : Run.Journaled R) (name : Value) (fault : Fault) :
    Run.Agree R (Guard.skip name fault) (Guard.skip name fault) := by
  unfold Guard.skip
  exact Run.Agree.ite (.pure _) ((Run.Agree.note hR _ _ _).bind fun _ => .pure _)

theorem underMutex_agree (hR : Run.Journaled R) (he : env.Agree R env') (name expire : Value)
    {work : Run ω Value} {work' : Run σ Value} (hw : Run.Agree R work work') :
    Run.Agree (Run.Beside R) (Guard.underMutex env name expire work)
      (Guard.underMutex env' name expire work') := by
  have hmutex : Cached.Agree (Run.Beside R) ⟨name, expire, defaultPollInterval, .ofPrivate⟩
      ⟨name, expire, defaultPollInterval, .ofPrivate⟩ := ⟨rfl, rfl, rfl, .ofPrivate⟩
  refine (Holding.callLocked_agree hR.beside (hmutex.handle hR.beside he.shared) _ _
    hw.beside.attempt fun phase fault => ?_).bind fun outcome => .ofExcept outcome
  cases phase with
  | operation => exact .fail fault
  | acquisition => exact (skip_agree hR.beside name fault).bind fun _ => .pure _

/-- Guarded calls agree if their surroundings and their tasks do. -/
theorem call_agree (hR : Run.Journaled R) (he : env.Agree R env') (guard : Guard)
    (fallback : Value) (args : Arguments) {task : Arguments → Run ω Value}
    {task' : Arguments → Run σ Value} (ht : ∀ args, Run.Agree R (task args) (task' args)) :
    Run.Agree R (guard.call env fallback args task) (guard.call env' fallback args task') :=
  (lockName_agree hR guard args).bind fun name =>
    (underMutex_agree hR he name _ (ht args)).withPrivate

end Agreement

theorem call_recording_agree [Journal σ] (guard : Guard) (env : Surroundings σ) (fallback : Value)
    (args : Arguments) (task : Arguments → Run σ Value) :
    Run.Agree Run.Shares (guard.call (recording env) fallback args (recordingTask task))
      (guard.call env fallback args task) :=
  call_agree Run.Shares.journaled (recording_agree env) guard fallback args fun _ => .logged _ _

/-! ## What is written down -/

section Transcript

open Holding

variable [Journal σ] {env : Surroundings σ} {clock : σ → ℚ} {name expire : Value} {s : σ}
  {log : List Touch}

omit [Journal σ] in
theorem ticks_recording (h : Ticks env clock) :
    Ticks (recording env).shared fun w : CallWorld σ => clock w.1.1 where
  now w := by
    obtain ⟨x, t, hx, hq, hle⟩ := h.now w.1.1
    exact ⟨x, ((t, w.1.2), w.2), Run.inShared_of (Run.inShared_of hx _) _, hq, hle⟩
  drawToken w := by
    obtain ⟨token, t, ht, hle⟩ := h.drawToken w.1.1
    exact ⟨token, ((t, w.1.2), w.2), Run.inShared_of (Run.inShared_of ht _) _, hle⟩
  add key token expire w := h.add key token expire w.1.1
  patience := h.patience

/-- What was written down about an acquisition, with how the acquisition ended and the token that the
mutex then has. -/
inductive Opening (name expire : Value) : Except Fault Value → Option String → List Touch → Prop
  | obtained {token : String} {v : Value} : v.isTruthy = true →
      Opening name expire (.ok (.bool true)) (some token)
        [.added (cacheKey name) token expire (.ok v)]
  | taken (token : String) {v : Value} : v.isTruthy = false →
      Opening name expire (.ok (.bool false)) none [.added (cacheKey name) token expire (.ok v)]
  | failed (token : String) (fault : Fault) :
      Opening name expire (.error fault) none
        [.added (cacheKey name) token expire (.error fault)]

/-- A call does not wait for its mutex. -/
theorem callTimeout : Timeout.resolve (.int 0) none = .ok (.int 0, .seconds) := rfl

omit [Journal σ] in
theorem recording_add (env : Surroundings σ) (key token : String) (expire : Value)
    (w : CallWorld σ) :
    (recording env).shared.add key token expire w
      = ((env.add key token expire w.1.1).1, ((env.add key token expire w.1.1).2,
          w.1.2 ++ [.added key token expire (env.add key token expire w.1.1).1]), w.2) := rfl

omit [Journal σ] in
theorem recording_get (env : Surroundings σ) (key : String) (w : CallWorld σ) :
    (recording env).shared.get key w
      = ((env.get key w.1.1).1, ((env.get key w.1.1).2,
          w.1.2 ++ [.got key (env.get key w.1.1).1]), w.2) := rfl

omit [Journal σ] in
theorem recording_delete (env : Surroundings σ) (key : String) (w : CallWorld σ) :
    (recording env).shared.delete key w
      = ((env.delete key w.1.1).1, ((env.delete key w.1.1).2,
          w.1.2 ++ [.deleted key (env.delete key w.1.1).1]), w.2) := rfl

theorem acquire_opening (h : Ticks env clock) (name expire : Value) (s : σ) (log : List Touch) :
    ∃ answer w touches, (Guard.callMutex name expire).acquire (recording env).shared (.int 0)
        .seconds ((s, log), none) = (answer, w) ∧ w.1.2 = log ++ touches ∧
      Opening name expire answer w.2 touches := by
  obtain ⟨token, t, hd, hattempted⟩ := acquire_at_once (ticks_recording h)
    (Guard.callMutex name expire) .seconds ((s, log), none)
  obtain rfl : (((env.drawToken (env.now s).2).2, log), none) = t := congrArg Prod.snd hd
  change Attempted _ _ _ ((recording env).shared.add (cacheKey name) token expire _) _
    at hattempted
  rw [recording_add] at hattempted
  rcases hw : (Guard.callMutex name expire).acquire (recording env).shared (.int 0) .seconds
    ((s, log), none) with ⟨outcome, w⟩
  rw [hw] at hattempted
  generalize (env.add (cacheKey name) token expire _).1 = answer at hattempted
  refine ⟨outcome, w, [.added (cacheKey name) token expire answer], rfl, ?_⟩
  cases hattempted with
  | failed fault => exact ⟨rfl, .failed token fault⟩
  | obtained hv hn =>
    have htoken : w.2 = some token := hn.private_eq
    exact ⟨hn.eq_of (·.1.2) fun _ _ => rfl, htoken ▸ .obtained hv⟩
  | taken hv hn =>
    have htoken : w.2 = none := hn.private_eq
    exact ⟨hn.eq_of (·.1.2) fun _ _ => rfl, htoken ▸ .taken token hv⟩

theorem release_closing (env : Surroundings σ) (name expire : Value) (s : σ) (log : List Touch)
    (token : String) :
    ∃ back w touches, (Guard.callMutex name expire).release (recording env).shared.toCacheService
        ((s, log), some token) = (back, w) ∧ w.1.2 = log ++ touches ∧
      Closing name token back touches := by
  have htoken : (Guard.callMutex (σ := σ × List Touch) name expire).token.read
      ((s, log), some token) = some token := rfl
  have hreleased := release_outcome (recording env).shared.toCacheService _ htoken
  change Released _ _ _ ((recording env).shared.get (cacheKey name) _) _ at hreleased
  rw [recording_get] at hreleased
  rcases hw : (Guard.callMutex name expire).release (recording env).shared.toCacheService
    ((s, log), some token) with ⟨back, w⟩
  rw [hw] at hreleased
  refine ⟨back, w, ?_⟩
  generalize (env.get (cacheKey name) _).1 = answer at hreleased
  cases hreleased with
  | unreadable fault => exact ⟨_, rfl, rfl, .unreadable fault⟩
  | foreign _ hv => exact ⟨_, rfl, rfl, .foreign hv⟩
  | undeletable hv hdel =>
    obtain ⟨hfault, rfl⟩ := Prod.mk.inj ((recording_delete env _ _).symm.trans hdel)
    refine ⟨_, rfl, ?_, .undeletable _ hv⟩
    rw [hfault]
    exact List.append_assoc ..
  | deleted hv hdel hn =>
    obtain ⟨hdone, hworld⟩ := Prod.mk.inj ((recording_delete env _ _).symm.trans hdel)
    refine ⟨_, rfl, ?_, .deleted hv⟩
    have hlog := (hn.eq_of (·.1.2) fun _ _ => rfl).trans (congrArg (·.1.2) hworld.symm)
    rw [hlog, hdone]
    exact List.append_assoc ..

section Hold

variable {work : Run σ Value} {w v x : σ × Option String} {fault : Fault}

/-- What the work ended with travels through the locked call as a result. -/
theorem underMutex_of_hold_ok {outcome : Except Fault Value}
    (h : hold (some ((Guard.callMutex name expire).handle env.shared)) (.int 0) (some .seconds)
      work.inShared.attempt w = (.ok outcome, v)) :
    Guard.underMutex env name expire work w = (outcome, v) :=
  Guard.underMutex_of_callLocked
    ((callLocked_some _ (Guard.onFault name) callTimeout).trans (Run.recover_of_ok h))

/-- A fault of the locked call goes to its handler. -/
theorem underMutex_of_hold_ordinary {outcome : Except Fault (Except Fault Value)}
    (h : hold (some ((Guard.callMutex name expire).handle env.shared)) (.int 0) (some .seconds)
      work.inShared.attempt w = (.error fault, v)) (hf : fault.isOrdinary = true)
    (hh : Guard.onFault name (phaseOf fault) fault v = (outcome, x)) :
    Guard.underMutex env name expire work w = (outcome >>= id, x) :=
  Guard.underMutex_of_callLocked
    ((callLocked_of_ordinary callTimeout h hf (Guard.onFault name)).trans hh)

/-- A demand to stop the program does not. -/
theorem underMutex_of_hold_stop
    (h : hold (some ((Guard.callMutex name expire).handle env.shared)) (.int 0) (some .seconds)
      work.inShared.attempt w = (.error fault, v)) (hf : fault.isOrdinary = false) :
    Guard.underMutex env name expire work w = (.error fault, v) :=
  Guard.underMutex_of_callLocked
    ((callLocked_some _ (Guard.onFault name) callTimeout).trans (Run.recover_of_not_caught h hf))

end Hold

theorem hold_of_refused_call (work : Run σ Value) {answer : Except Fault Value}
    {w v : σ × Option String}
    (ha : (Guard.callMutex name expire).acquire env.shared (.int 0) .seconds w = (answer, v))
    (hg : isGrant answer = false) :
    ∃ v', Noted v v' ∧ hold (some ((Guard.callMutex name expire).handle env.shared)) (.int 0)
      (some .seconds) work.inShared.attempt w = (.error (refusal (.int 0) .seconds answer), v') := by
  have hlock : ((Guard.callMutex name expire).handle env.shared).acquire (.int 0) .seconds w
      = (answer, v) := ha
  obtain ⟨v', hh, hn⟩ := hold_of_refusal (α := Except Fault Value)
    (Timeout.resolve_resolve callTimeout) hlock hg
  exact ⟨v', hn, hh work.inShared.attempt⟩

/-- Where the mutex is not obtained, the call is skipped. -/
theorem underMutex_of_refusal (work : Run σ Value) {answer : Except Fault Value}
    {w v : σ × Option String}
    (ha : (Guard.callMutex name expire).acquire env.shared (.int 0) .seconds w = (answer, v))
    (hg : isGrant answer = false) (hf : (refusal (.int 0) .seconds answer).isOrdinary = true) :
    ∃ v', Noted v v' ∧ Guard.underMutex env name expire work w
      = Guard.skip name (refusal (.int 0) .seconds answer) v' := by
  obtain ⟨v', hn, hh⟩ := hold_of_refused_call work ha hg
  refine ⟨v', hn, ?_⟩
  have hphase : phaseOf (refusal (.int 0) .seconds answer) = .acquisition :=
    if_pos (refusal_isAcquisition _ _ _ hf)
  rcases hs : Guard.skip name (refusal (.int 0) .seconds answer) v' with ⟨outcome, u⟩
  have hhandled : Guard.onFault name (phaseOf (refusal (.int 0) .seconds answer))
      (refusal (.int 0) .seconds answer) v' = (Except.ok <$> outcome, u) := by
    rw [hphase]
    exact Guard.onFault_of_skip hs
  rw [underMutex_of_hold_ordinary hh hf hhandled]
  cases outcome <;> rfl

/-- A demand to stop the program is no reason to skip the call: it is passed on. -/
theorem underMutex_of_stop (work : Run σ Value) {fault : Fault} {w v : σ × Option String}
    (ha : (Guard.callMutex name expire).acquire env.shared (.int 0) .seconds w
      = (.error fault, v)) (hf : fault.isOrdinary = false) :
    ∃ v', Noted v v' ∧ Guard.underMutex env name expire work w = (.error fault, v') := by
  obtain ⟨v', hn, hh⟩ := hold_of_refused_call work ha rfl
  have hrefusal : refusal (.int 0) .seconds (.error fault) = fault :=
    if_neg (Bool.eq_false_iff.1 hf)
  rw [hrefusal] at hh
  exact ⟨v', hn, underMutex_of_hold_stop hh hf⟩

section Granted

variable {work : Run σ Value} {answer back outcome : Except Fault Value} {w v x : σ × Option String}
  {u : σ}

theorem hold_of_granted_call
    (ha : (Guard.callMutex name expire).acquire env.shared (.int 0) .seconds w = (answer, v))
    (hg : isGrant answer = true) (hw : work v.1 = (outcome, u))
    (hr : (Guard.callMutex name expire).release env.shared.toCacheService (u, v.2) = (back, x)) :
    ∃ x', Noted x x' ∧ hold (some ((Guard.callMutex name expire).handle env.shared)) (.int 0)
      (some .seconds) work.inShared.attempt w = (afterRelease (.ok outcome) back, x') := by
  have hlock : ((Guard.callMutex name expire).handle env.shared).acquire (.int 0) .seconds w
      = (answer, v) := ha
  have hwork : work.inShared.attempt v = (.ok outcome, u, v.2) := by
    rw [Run.attempt_apply, Run.inShared_apply, hw]
  obtain ⟨x', hh, hn⟩ := hold_of_grant (Timeout.resolve_resolve callTimeout) hlock hg hwork hr
  exact ⟨x', hn, hh⟩

/-- Where the mutex is obtained, the call ends as the work did. -/
theorem underMutex_of_grant
    (ha : (Guard.callMutex name expire).acquire env.shared (.int 0) .seconds w = (answer, v))
    (hg : isGrant answer = true) (hw : work v.1 = (outcome, u))
    (hr : (Guard.callMutex name expire).release env.shared.toCacheService (u, v.2) = (back, x))
    (hl : isLoud back = false) :
    ∃ x', Noted x x' ∧ Guard.underMutex env name expire work w = (outcome, x') := by
  obtain ⟨x', hn, hh⟩ := hold_of_granted_call ha hg hw hr
  rw [afterRelease_of_quiet _ hl] at hh
  exact ⟨x', hn, underMutex_of_hold_ok hh⟩

/-- Unless the release after it is a demand to stop the program, which is passed on. -/
theorem underMutex_of_loud {fault : Fault}
    (ha : (Guard.callMutex name expire).acquire env.shared (.int 0) .seconds w = (answer, v))
    (hg : isGrant answer = true) (hw : work v.1 = (outcome, u))
    (hr : (Guard.callMutex name expire).release env.shared.toCacheService (u, v.2)
      = (.error fault, x)) (hf : fault.isOrdinary = false) :
    ∃ x', Noted x x' ∧ Guard.underMutex env name expire work w = (.error fault, x') := by
  obtain ⟨x', hn, hh⟩ := hold_of_granted_call ha hg hw hr
  have hloud : afterRelease (.ok outcome) (.error fault)
      = (.error fault : Except Fault (Except Fault Value)) := if_neg (Bool.eq_false_iff.1 hf)
  rw [hloud] at hh
  exact ⟨x', hn, underMutex_of_hold_stop hh hf⟩

end Granted

theorem skip_of_timeout {fault : Fault} (h : fault.kind = .acquisitionTimeout) (s : σ) :
    Guard.skip name fault s
      = (.ok (skipped "task_already_running" s!"Task {name.display} is already running"), s) := by
  unfold Guard.skip
  rw [if_pos h]
  rfl

theorem skip_of_failure {fault : Fault} (h : fault.kind ≠ .acquisitionTimeout) (s : σ) :
    ∃ t, Noted s t ∧ Guard.skip name fault s
      = (.ok (skipped "lock_acquisition_failed" s!"Failed to acquire lock for {name.display}"),
          t) := by
  unfold Guard.skip
  rw [if_neg h]
  exact ⟨_, .record _ _, rfl⟩

/-- **Work under the mutex of a call, written down.** -/
theorem underMutex_transcript (h : Ticks env clock) (name expire : Value) (args : Arguments)
    (task : Arguments → Run σ Value) (s : σ) :
    ∃ outcome w, Guard.underMutex (recording env) name expire (recordingTask task args)
        ((s, []), none) = (outcome, w) ∧ Transcript name expire args outcome w.1.2 := by
  obtain ⟨answer, ⟨⟨t, log⟩, own⟩, touches, hacq, hlog, hopen⟩ :=
    acquire_opening h name expire s []
  obtain rfl : log = touches := hlog
  cases hopen with
  | taken token hv =>
    obtain ⟨w, hn, hcall⟩ := underMutex_of_refusal (recordingTask task args) hacq rfl rfl
    rw [skip_of_timeout rfl] at hcall
    refine ⟨_, w, hcall, ?_⟩
    rw [hn.eq_of (·.1.2) fun _ _ => rfl]
    exact .taken token hv
  | failed token fault =>
    by_cases hf : fault.isOrdinary = true
    · have hrefusal : refusal (.int 0) .seconds (.error fault)
          = Problem.acquireFailed.causedBy fault := if_pos hf
      obtain ⟨v, hv, hcall⟩ := underMutex_of_refusal (recordingTask task args) hacq rfl
        (by rw [hrefusal]; rfl)
      rw [hrefusal] at hcall
      have hkind : (Problem.acquireFailed.causedBy fault).kind ≠ .acquisitionTimeout := nofun
      obtain ⟨w, hw, hskip⟩ := skip_of_failure hkind v
      refine ⟨_, w, hcall.trans hskip, ?_⟩
      rw [hw.eq_of (·.1.2) fun _ _ => rfl, hv.eq_of (·.1.2) fun _ _ => rfl]
      exact .failed token hf
    · have hstop := Bool.eq_false_iff.2 hf
      obtain ⟨w, hn, hcall⟩ := underMutex_of_stop (recordingTask task args) hacq hstop
      refine ⟨_, w, hcall, ?_⟩
      rw [hn.eq_of (·.1.2) fun _ _ => rfl]
      exact .stopped token hstop
  | @obtained token v hv =>
    have hwork : recordingTask task args (t, [.added (cacheKey name) token expire (.ok v)])
        = ((task args t).1, (task args t).2,
            [.added (cacheKey name) token expire (.ok v)] ++ [.ran args (task args t).1]) := rfl
    obtain ⟨back, x, closing, hrel, hlog, hclosing⟩ := release_closing env name expire
      (task args t).2 ([.added (cacheKey name) token expire (.ok v)] ++ [.ran args (task args t).1])
      token
    cases hl : isLoud back with
    | false =>
      obtain ⟨w, hn, hcall⟩ := underMutex_of_grant hacq rfl hwork hrel hl
      refine ⟨_, w, hcall, ?_⟩
      rw [hn.eq_of (·.1.2) fun _ _ => rfl, hlog]
      exact .ran _ hv hclosing hl
    | true =>
      cases back with
      | ok _ => cases hl
      | error fault =>
        have hstop : fault.isOrdinary = false := by simpa [isLoud] using hl
        obtain ⟨w, hn, hcall⟩ := underMutex_of_loud hacq rfl hwork hrel hstop
        refine ⟨_, w, hcall, ?_⟩
        rw [hn.eq_of (·.1.2) fun _ _ => rfl, hlog]
        exact .cutShort _ hv hclosing hstop

/-- **The guard is transparent.** Where the name of the lock is known, a guarded call comes to one of
the things that a transcript can tell: how it ends, and all that it asked of the cache, all that it
slept, and each run of the task. Writing that down changes neither how the call ends nor the world
that it leaves. -/
theorem transparent (h : Ticks env clock) (guard : Guard) (fallback : Value) (args : Arguments)
    (task : Arguments → Run σ Value) {s : σ} {name : Value}
    (hname : (guard.lockName args s).1 = .ok name) :
    ∃ touches, guard.call (recording env) fallback args (recordingTask task) (s, [])
        = ((guard.call env fallback args task s).1, (guard.call env fallback args task s).2,
            touches) ∧
      Transcript name (guard.expire.orElse fallback) args (guard.call env fallback args task s).1
        touches := by
  obtain ⟨hout, hworld⟩ := call_recording_agree guard env fallback args task (s, []) s rfl
  have hsame := (lockName_agree Run.Shares.journaled guard args ((s, []) : σ × List Touch) s rfl).1
  obtain ⟨⟨t, log⟩, hlock, hn⟩ := Guard.lockName_apply guard args ((s, []) : σ × List Touch)
  obtain rfl : log = [] := hn.private_eq
  rw [hsame, hname] at hlock
  obtain ⟨outcome, w, hw, htranscript⟩ :=
    underMutex_transcript h name (guard.expire.orElse fallback) args task t
  have hcall : guard.call (recording env) fallback args (recordingTask task) (s, [])
      = (outcome, w.1) := by
    unfold Guard.call
    rw [Run.bind_ok _ hlock, Run.withPrivate_apply, hw]
  rw [hcall] at hout hworld
  refine ⟨w.1.2, ?_, hout ▸ htranscript⟩
  rw [hcall]
  exact Prod.ext hout (Prod.ext hworld rfl)

end Transcript

/-! ## A task with a lock of its own -/

theorem ticks_memory : Ticks Memory.surroundings fun _ => 0 where
  now m := by
    refine ⟨0, m, rfl, ?_, le_refl _⟩
    rw [Number.ofFloat_eq]
    rfl
  drawToken m := ⟨tokenOf m.drawn, m.draw, rfl, le_refl _⟩
  add _ _ _ _ := le_refl _
  patience := Nat.succ_pos 999

/-- A task that may run once in a minute. -/
def backup : Guard := ⟨.text "backup", .int 60, .null⟩

/-- The fault of a task that could not obtain a lock that it takes itself. -/
def ownLockTaken : Fault := (Problem.acquireTimedOut (.int 5) .seconds).fault

/-- The fault is passed on, and is not taken for one of the lock of the call. -/
theorem backup_passes_fault_on :
    ∃ t touches, backup.call (recording Memory.surroundings) .null ⟨[], []⟩
        (recordingTask fun _ => .fail ownLockTaken) (Memory.fresh, [])
          = (.error ownLockTaken, t, touches) ∧
      Transcript (.text "backup") (.int 60) ⟨[], []⟩ (.error ownLockTaken) touches := by
  obtain ⟨touches, hcall, htranscript⟩ := transparent ticks_memory backup .null ⟨[], []⟩
    (fun _ => .fail ownLockTaken) (rfl : (backup.lockName ⟨[], []⟩ Memory.fresh).1 = .ok _)
  have hout : (backup.call Memory.surroundings .null ⟨[], []⟩ (fun _ => .fail ownLockTaken)
      Memory.fresh).1 = .error ownLockTaken := rfl
  rw [hout] at hcall htranscript
  exact ⟨_, touches, hcall, htranscript⟩

end TimedLock.Task
