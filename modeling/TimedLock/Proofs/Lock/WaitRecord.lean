import TimedLock.Proofs.Agreement
import TimedLock.Proofs.Lock.ExactTime
import TimedLock.Proofs.Lock.PolledWait

/-!
# What a wait asks, call by call

Surroundings that write down what is asked of them (`Surroundings.recorded`) tell how an acquisition
of a cache mutex goes: it reads the clock, goes through some rounds, each of them a failed try and
the sleep after it, and ends with a last try (`acquired`). What an acquisition asks that returns is
`Waited`: which tries there are, with which tokens, and how long each sleep is to last. Writing that
down changes nothing (`recorded_acquireBy_agree`).

An acquisition is one by the clock of its surroundings, in doubles (`Cached.acquire_eq`), and all of
this holds for time however it is measured, so that waits can be followed where time is exact.
-/

namespace TimedLock

namespace Run

variable {σ ε α : Type}

/-- Runs `x`, and writes to a list how it ended and the worlds before and after it. -/
def witnessed (x : Run σ α) (entry : Except Fault α → σ → σ → ε) : Run (σ × List ε) α := do
  let before ← look Prod.fst
  let outcome ← x.inShared.attempt
  change fun w => (w.1, w.2 ++ [entry outcome before w.1])
  ofExcept outcome

theorem Agree.witnessed (x : Run σ α) (entry : Except Fault α → σ → σ → ε) :
    Agree Shares (x.witnessed entry) x := by
  rintro w _ rfl
  exact ⟨rfl, rfl⟩

end Run

namespace Lock

variable {σ τ π δ : Type}

/-! ## What is written down -/

/-- What a wait asks of its surroundings, and how they answer. -/
inductive Act (σ τ π : Type)
  | read (answer : Except Fault τ)
  | drew (answer : Except Fault String)
  | added (key token : String) (expire : Value) (answer : Except Fault Value)
  /-- Others go on during a sleep, so the worlds before and after it are kept. -/
  | slept (pause : π) (answer : Except Fault Unit) (before after : σ)

/-- The worlds before and after a sleep. -/
def Act.nap? : Act σ τ π → Option (σ × σ)
  | .slept _ _ before after => some (before, after)
  | _ => none

/-- The sleeps among some acts, given by the worlds before and after them. -/
def naps (acts : List (Act σ τ π)) : List (σ × σ) := acts.filterMap Act.nap?

/-- A world with a list of what was asked. -/
abbrev Recorded (σ τ π : Type) := σ × List (Act σ τ π)

/-- A clock, and a way to sleep. -/
structure Timepiece (σ τ π : Type) where
  now : Run σ τ
  sleep : π → Run σ Unit

/-- The clock of the surroundings, and their way to sleep. -/
def Surroundings.timepiece (env : Surroundings σ) : Timepiece σ Float Value := ⟨env.now, env.sleep⟩

def Timepiece.recorded (time : Timepiece σ τ π) : Timepiece (Recorded σ τ π) τ π where
  now := time.now.logged .read
  sleep pause := (time.sleep pause).witnessed (.slept pause)

def CacheService.recorded (cache : CacheService σ) : CacheService (Recorded σ τ π) where
  add key token expire := (cache.add key token expire).logged (.added key token expire)
  get key := (cache.get key).inShared
  delete key := (cache.delete key).inShared
  drawToken := cache.drawToken.logged .drew

/-- The surroundings, with what a wait asks of them written down. -/
def Surroundings.recorded (env : Surroundings σ) : Surroundings (Recorded σ Float Value) where
  toCacheService := env.toCacheService.recorded
  now := env.timepiece.recorded.now
  sleep := env.timepiece.recorded.sleep
  patience := env.patience

namespace Cached

/-- The mutex in a recorded world. -/
def recorded (lock : Cached σ) : Cached (Recorded σ τ π) where
  name := lock.name
  expire := lock.expire
  pollInterval := lock.pollInterval
  token := lock.token.inShared

/-- What a try asks: a token, and that the key is added with it. -/
def asks (lock : Cached σ) (token : String) (answer : Except Fault Value) : List (Act σ τ π) :=
  [.drew (.ok token), .added lock.key token lock.expire answer]

/-! ## Acquisitions by any clock -/

section Clocks

variable [Journal σ] [Pace τ π]

/-- The mutex as something to poll for, by any clock. -/
def pollerBy (cache : CacheService σ) (time : Timepiece σ τ π) (lock : Cached σ) : Poller σ τ π where
  attempt := lock.attempt cache
  now := time.now
  sleep := time.sleep

/-- Obtains the mutex within a time that tells the deadline from the start, by any clock. -/
def acquireBy (cache : CacheService σ) (time : Timepiece σ τ π) (lock : Cached σ) (interval : π)
    (deadlineOf : τ → Except Fault τ) (bound : Nat) : Run σ Value := do
  let start ← time.now
  let deadline ← .ofExcept (deadlineOf start)
  let obtained ← (lock.pollerBy cache time).run interval deadline bound
  if !obtained then
    .note .debug .taskLock s!"Task lock already exists lock_name={lock.name.display}"
  pure (.bool obtained)

/-- The deadline of a wait for a time, in doubles. -/
def deadlineOf (time : Value) (unit : TimeUnit) (start : Float) : Except Fault Float := do
  (← unit.toSeconds time).addedTo start

/-- **An acquisition is one by the clock of its surroundings.** -/
theorem acquire_eq (env : Surroundings σ) (lock : Cached σ) (time : Value) (unit : TimeUnit) :
    lock.acquire env time unit = lock.acquireBy env.toCacheService env.timepiece lock.pollInterval
      (deadlineOf time unit) env.patience := by
  unfold acquire acquireBy deadlineOf
  refine congrArg (env.now >>= ·) (funext fun start => ?_)
  cases unit.toSeconds time <;> rfl

omit [Journal σ] [Pace τ π] in
theorem deadlineOf_ok {time : Value} {unit : TimeUnit} {start deadline : Float}
    (h : deadlineOf time unit start = .ok deadline) :
    ∃ seconds, unit.toSeconds time = .ok seconds ∧ seconds.addedTo start = .ok deadline := by
  unfold deadlineOf at h
  cases hs : unit.toSeconds time with
  | error fault =>
    rw [hs] at h
    cases h
  | ok seconds =>
    rw [hs] at h
    exact ⟨seconds, rfl, h⟩

end Clocks

end Cached

/-! ## One try -/

section Tries

variable [Journal σ] {cache : CacheService σ} {time : Timepiece σ τ π} {lock : Cached σ}

/-- What one try comes to. -/
inductive Sought (cache : CacheService σ) (lock : Cached σ) (w : Recorded σ τ π) :
    Except Fault Bool × Recorded σ τ π → Prop
  | undrawn {fault : Fault} {t : σ} : cache.drawToken w.1 = (.error fault, t) →
      Sought cache lock w (.error fault, t, w.2 ++ [.drew (.error fault)])
  | unadded {token : String} {fault : Fault} {t u : σ} : cache.drawToken w.1 = (.ok token, t) →
      cache.add lock.key token lock.expire t = (.error fault, u) →
      Sought cache lock w (.error fault, u, w.2 ++ lock.asks token (.error fault))
  | refused {token : String} {v : Value} {t u : σ} : cache.drawToken w.1 = (.ok token, t) →
      cache.add lock.key token lock.expire t = (.ok v, u) → v.isTruthy = false →
      Sought cache lock w (.ok false, u, w.2 ++ lock.asks token (.ok v))
  | obtained {token : String} {v : Value} {t u u' : σ} : cache.drawToken w.1 = (.ok token, t) →
      cache.add lock.key token lock.expire t = (.ok v, u) → v.isTruthy = true →
      Noted (lock.token.write (some token) u) u' →
      Sought cache lock w (.ok true, u', w.2 ++ lock.asks token (.ok v))

omit [Journal σ] in
theorem recorded_drawToken {answer : Except Fault String} {w : Recorded σ τ π} {t : σ}
    (h : cache.drawToken w.1 = (answer, t)) :
    cache.recorded.drawToken w = (answer, t, w.2 ++ [.drew answer]) := Run.logged_of h Act.drew w.2

omit [Journal σ] in
theorem recorded_add {key token : String} {expire : Value} {answer : Except Fault Value}
    {w : Recorded σ τ π} {t : σ} (h : cache.add key token expire w.1 = (answer, t)) :
    cache.recorded.add key token expire w = (answer, t, w.2 ++ [.added key token expire answer]) :=
  Run.logged_of h (Act.added key token expire) w.2

/-- **One try.** -/
theorem sought (cache : CacheService σ) (lock : Cached σ) (w : Recorded σ τ π) :
    Sought cache lock w (lock.recorded.attempt cache.recorded w) := by
  rcases hd : cache.drawToken w.1 with ⟨fault | token, t⟩
  · have hattempt : lock.recorded.attempt cache.recorded w
        = (.error fault, t, w.2 ++ [.drew (.error fault)]) :=
      Run.bind_error _ (recorded_drawToken hd)
    rw [hattempt]
    exact .undrawn hd
  have hdraw := recorded_drawToken hd
  rcases ha : cache.add lock.key token lock.expire t with ⟨answer, u⟩
  have hadd : cache.recorded.add lock.key token lock.expire (t, w.2 ++ [.drew (.ok token)])
      = (answer, u, w.2 ++ lock.asks token answer) := by
    rw [recorded_add ha, List.append_assoc]
    rfl
  rcases answer with fault | v
  · have hattempt : lock.recorded.attempt cache.recorded w
        = (.error fault, u, w.2 ++ lock.asks token (.error fault)) := attempt_of_error hdraw hadd
    rw [hattempt]
    exact .unadded hd ha
  cases hv : v.isTruthy with
  | false =>
    have hattempt : lock.recorded.attempt cache.recorded w
        = (.ok false, u, w.2 ++ lock.asks token (.ok v)) := attempt_of_falsy hdraw hadd hv
    rw [hattempt]
    exact .refused hd ha hv
  | true =>
    obtain ⟨⟨u', log⟩, hattempt, hnoted⟩ : ∃ u', lock.recorded.attempt cache.recorded w
        = (.ok true, u') ∧ Noted (lock.recorded.token.write (some token)
          (u, w.2 ++ lock.asks token (.ok v))) u' := attempt_of_truthy hdraw hadd hv
    obtain rfl : log = w.2 ++ lock.asks token (.ok v) := hnoted.private_eq
    rw [hattempt]
    exact .obtained hd ha hv hnoted.shared

end Tries

/-! ## Rounds -/

namespace Poller

section Rounds

variable [Pace τ π] {poller : Poller σ τ π} {interval : π} {deadline : τ} {n bound : Nat} {s t u : σ}
  {nap : List (σ × σ)}

/-- So many polls, one after another, that end with a sleep. -/
inductive Rounds (poller : Poller σ τ π) (interval : π) (deadline : τ) : Nat → σ → σ → Prop
  | refl (s : σ) : Rounds poller interval deadline 0 s s
  | snoc {n : Nat} {s t u : σ} {nap : List (σ × σ)} : Rounds poller interval deadline n s t →
      Stepped poller interval deadline t nap (.ok none) u →
      Rounds poller interval deadline (n + 1) s u

theorem Rounds.cons (hs : Stepped poller interval deadline s nap (.ok none) t)
    (h : Rounds poller interval deadline n t u) : Rounds poller interval deadline (n + 1) s u := by
  induction h with
  | refl t => exact .snoc (.refl s) hs
  | snoc _ hlast ih => exact .snoc (ih hs) hlast

/-- How polling ends after so many rounds. -/
inductive Ending (poller : Poller σ τ π) (interval : π) (deadline : τ) (bound n : Nat) (s : σ) :
    Except Fault Bool × σ → Prop
  | exhausted : n = bound →
      Ending poller interval deadline bound n s (.error Problem.pollLimit.fault, s)
  | ended {nap : List (σ × σ)} {obtained : Bool} {t : σ} : n < bound →
      Stepped poller interval deadline s nap (.ok (some obtained)) t →
      Ending poller interval deadline bound n s (.ok obtained, t)
  | failed {nap : List (σ × σ)} {fault : Fault} {t : σ} : n < bound →
      Stepped poller interval deadline s nap (.error fault) t →
      Ending poller interval deadline bound n s (.error fault, t)

theorem Ending.succ {ran : Except Fault Bool × σ}
    (h : Ending poller interval deadline bound n s ran) :
    Ending poller interval deadline (bound + 1) (n + 1) s ran := by
  cases h with
  | exhausted hn => exact .exhausted (congrArg Nat.succ hn)
  | ended hn hs => exact .ended (Nat.succ_lt_succ hn) hs
  | failed hn hs => exact .failed (Nat.succ_lt_succ hn) hs

/-- **Polling goes in rounds.** -/
theorem exists_rounds (poller : Poller σ τ π) (interval : π) (deadline : τ) (bound : Nat) (s : σ) :
    ∃ n t, Rounds poller interval deadline n s t ∧
      Ending poller interval deadline bound n t (poller.run interval deadline bound s) := by
  induction bound generalizing s with
  | zero => exact ⟨0, s, .refl s, .exhausted rfl⟩
  | succ bound ih =>
    obtain ⟨nap, result, t, hs⟩ := exists_stepped poller interval deadline s
    have hb : 0 < bound + 1 := Nat.succ_pos bound
    rcases result with fault | _ | obtained
    · have hrun : poller.run interval deadline (bound + 1) s = (.error fault, t) :=
        Run.untilSome_of_error hb hs.step_eq
      exact ⟨0, s, .refl s, hrun ▸ .failed hb hs⟩
    · have hrun : poller.run interval deadline (bound + 1) s = poller.run interval deadline bound t :=
        Run.bind_ok _ hs.step_eq
      obtain ⟨n, u, hrounds, hending⟩ := ih t
      exact ⟨n + 1, u, .cons hs hrounds, hrun ▸ hending.succ⟩
    · have hrun : poller.run interval deadline (bound + 1) s = (.ok obtained, t) :=
        Run.untilSome_of_some hb hs.step_eq
      exact ⟨0, s, .refl s, hrun ▸ .ended hb hs⟩

end Rounds

end Poller

/-- A try that failed, and the sleep after it. -/
structure Round (σ τ π : Type) where
  token : String
  answer : Value
  now : τ
  pause : π
  before : σ
  after : σ

/-- What is asked in a round. -/
def Round.acts (lock : Cached σ) (r : Round σ τ π) : List (Act σ τ π) :=
  lock.asks r.token (.ok r.answer)
    ++ [.read (.ok r.now), .slept r.pause (.ok ()) r.before r.after]

/-- The try failed, time was left, and the sleep was to last for the interval, or for the time that
was left where that is shorter. -/
structure Round.Fits [Pace τ π] [Measured τ π] (interval : π) (deadline : τ) (r : Round σ τ π) :
    Prop where
  refused : r.answer.isTruthy = false
  early : Pace.isOver (Pace.left deadline r.now) = false
  pause : Pace.pause interval (Pace.left deadline r.now) = .ok r.pause
  lasts : ∀ p q, Measured.length τ interval = some p →
    Measured.value (Pace.left deadline r.now) = some q →
    Measured.length τ r.pause = some (min p q)

/-- The last try of a wait, whether it obtained the mutex, and which token the mutex holds then. -/
inductive Last [Pace τ π] (lock : Cached σ) (deadline : τ) :
    List (Act σ τ π) → Bool → Option String → Prop
  | obtained {token : String} {answer : Value} : answer.isTruthy = true →
      Last lock deadline (lock.asks token (.ok answer)) true (some token)
  /-- Right after the try no time is left. -/
  | late {token : String} {answer : Value} {now : τ} {own : Option String} :
      answer.isTruthy = false → Pace.isOver (Pace.left deadline now) = true →
      Last lock deadline (lock.asks token (.ok answer) ++ [.read (.ok now)]) false own

/-- What a wait asks that ends by itself: some rounds, and a last try. -/
inductive Waited [Pace τ π] [Measured τ π] (lock : Cached σ) (interval : π) (deadline : τ) :
    List (Act σ τ π) → Bool → Option String → Prop
  | intro {rounds : List (Round σ τ π)} {last : List (Act σ τ π)} {obtained : Bool}
      {own : Option String} : (∀ r ∈ rounds, r.Fits interval deadline) →
      Last lock deadline last obtained own →
      Waited lock interval deadline (rounds.flatMap (Round.acts lock) ++ last) obtained own

section Waits

variable [Journal σ] [Pace τ π] {cache : CacheService σ} {time : Timepiece σ τ π} {lock : Cached σ}
  {interval : π} {deadline : τ} {w v : Recorded σ τ π} {n : Nat}
  {nap : List (Recorded σ τ π × Recorded σ τ π)}

/-- The mutex as something to poll for, where what is asked is written down. -/
def Cached.recordedPoller (cache : CacheService σ) (time : Timepiece σ τ π) (lock : Cached σ) :
    Poller (Recorded σ τ π) τ π :=
  lock.recorded.pollerBy cache.recorded time.recorded

omit [Journal σ] [Pace τ π] in
theorem Timepiece.recorded_now {answer : Except Fault τ} (h : time.recorded.now w = (answer, v)) :
    time.now w.1 = (answer, v.1) ∧ v.2 = w.2 ++ [.read answer] := by
  obtain ⟨rfl, rfl⟩ := Prod.mk.inj h
  exact ⟨rfl, rfl⟩

omit [Journal σ] [Pace τ π] in
theorem Timepiece.recorded_sleep {pause : π} {answer : Except Fault Unit}
    (h : time.recorded.sleep pause w = (answer, v)) :
    time.sleep pause w.1 = (answer, v.1) ∧ v.2 = w.2 ++ [.slept pause answer w.1 v.1] := by
  obtain ⟨rfl, rfl⟩ := Prod.mk.inj h
  exact ⟨rfl, rfl⟩

/-- What is asked in a poll that ends with a sleep. -/
theorem Poller.Stepped.round [Measured τ π]
    (h : (lock.recordedPoller cache time).Stepped interval deadline w nap (.ok none) v) :
    ∃ r : Round σ τ π, r.Fits interval deadline ∧ v.2 = w.2 ++ r.acts lock := by
  cases h with
  | @slept t u _ now pause ha hn ho hp hs =>
    have htry : Sought cache lock w (.ok false, t) := ha ▸ sought cache lock w
    obtain ⟨-, hread⟩ := Timepiece.recorded_now hn
    obtain ⟨-, hslept⟩ := Timepiece.recorded_sleep hs
    cases htry with
    | @refused token answer _ _ _ _ hv =>
      refine ⟨⟨token, answer, now, pause, u.1, v.1⟩,
        ⟨hv, ho, hp, fun p q hlength hvalue => ?_⟩, ?_⟩
      · obtain ⟨least, hleast, hl⟩ := Measured.pause_eq hlength hvalue
        rw [hp] at hleast
        rwa [Except.ok.inj hleast]
      · rw [hslept, hread]
        simp [Round.acts]

theorem Poller.Rounds.acts [Measured τ π]
    (h : (lock.recordedPoller cache time).Rounds interval deadline n w v) :
    ∃ rounds : List (Round σ τ π), (∀ r ∈ rounds, r.Fits interval deadline) ∧
      v.2 = w.2 ++ rounds.flatMap (Round.acts lock) := by
  induction h with
  | refl w => exact ⟨[], nofun, (List.append_nil _).symm⟩
  | snoc _ hs ih =>
    obtain ⟨rounds, hfits, hacts⟩ := ih
    obtain ⟨r, hr, hround⟩ := hs.round
    refine ⟨rounds ++ [r], ?_, by simp [hround, hacts]⟩
    intro r' hr'
    obtain hr' | hr' := List.mem_append.1 hr'
    · exact hfits r' hr'
    · rwa [List.mem_singleton.1 hr']

/-! ### The last try -/

omit [Pace τ π] in
/-- A try that obtains the mutex leaves its token there. -/
theorem Sought.token [lock.token.Lawful]
    (hnoted : ∀ entry s, lock.token.read (Journal.record entry s) = lock.token.read s)
    (h : Sought cache lock w (.ok true, v)) :
    ∃ token answer, answer.isTruthy = true ∧ v.2 = w.2 ++ lock.asks token (.ok answer) ∧
      lock.token.read v.1 = some token := by
  cases h with
  | @obtained token answer _ u _ _ _ hv hn =>
    refine ⟨token, answer, hv, rfl, ?_⟩
    rw [hn.eq_of lock.token.read hnoted, Slot.Lawful.read_write]

/-- What is asked in a poll that ends the wait. -/
theorem Poller.Stepped.last [lock.token.Lawful]
    (hnoted : ∀ entry s, lock.token.read (Journal.record entry s) = lock.token.read s)
    {obtained : Bool}
    (h : (lock.recordedPoller cache time).Stepped interval deadline w nap (.ok (some obtained)) v) :
    ∃ acts, v.2 = w.2 ++ acts ∧ Last lock deadline acts obtained (lock.token.read v.1) := by
  cases h with
  | obtained ha =>
    have htry : Sought cache lock w (.ok true, v) := ha ▸ sought cache lock w
    obtain ⟨token, answer, hv, hacts, htoken⟩ := htry.token hnoted
    rw [htoken]
    exact ⟨_, hacts, .obtained hv⟩
  | @expired t _ now ha hn ho =>
    have htry : Sought cache lock w (.ok false, t) := ha ▸ sought cache lock w
    obtain ⟨-, hread⟩ := Timepiece.recorded_now hn
    cases htry with
    | refused _ _ hv =>
      rw [hread, List.append_assoc]
      exact ⟨_, rfl, .late hv ho⟩

end Waits

/-! ## Acquisitions -/

section Acquisitions

variable [Journal σ] [Pace τ π] {cache : CacheService σ} {time : Timepiece σ τ π} {lock : Cached σ}
  {interval : π} {deadlineOf : τ → Except Fault τ} {bound : Nat}

/-- How an acquisition goes. -/
inductive Acquired (cache : CacheService σ) (time : Timepiece σ τ π) (lock : Cached σ) (interval : π)
    (deadlineOf : τ → Except Fault τ) (bound : Nat) (w : Recorded σ τ π) :
    Except Fault Value × Recorded σ τ π → Prop
  | unstarted {fault : Fault} {t : Recorded σ τ π} :
      time.recorded.now w = (.error fault, t) →
      Acquired cache time lock interval deadlineOf bound w (.error fault, t)
  /-- The deadline cannot be told. -/
  | endless {start : τ} {fault : Fault} {t : Recorded σ τ π} :
      time.recorded.now w = (.ok start, t) → deadlineOf start = .error fault →
      Acquired cache time lock interval deadlineOf bound w (.error fault, t)
  | polled {start deadline : τ} {n : Nat} {outcome : Except Fault Bool} {t u v v' : Recorded σ τ π} :
      time.recorded.now w = (.ok start, t) → deadlineOf start = .ok deadline →
      (lock.recordedPoller cache time).Rounds interval deadline n t u →
      (lock.recordedPoller cache time).Ending interval deadline bound n u (outcome, v) →
      Noted v v' →
      Acquired cache time lock interval deadlineOf bound w (outcome.map Value.bool, v')

/-- **An acquisition**, round by round. -/
theorem acquired (cache : CacheService σ) (time : Timepiece σ τ π) (lock : Cached σ) (interval : π)
    (deadlineOf : τ → Except Fault τ) (bound : Nat) (w : Recorded σ τ π) :
    Acquired cache time lock interval deadlineOf bound w
      (lock.recorded.acquireBy cache.recorded time.recorded interval deadlineOf bound w) := by
  rcases hn : time.recorded.now w with ⟨fault | start, t⟩
  · have hran : lock.recorded.acquireBy cache.recorded time.recorded interval deadlineOf bound w
        = (.error fault, t) := Run.bind_error _ hn
    rw [hran]
    exact .unstarted hn
  unfold Cached.acquireBy
  rw [Run.bind_ok _ hn]
  cases hd : deadlineOf start with
  | error fault => exact .endless hn hd
  | ok deadline =>
    rw [Run.ofExcept_ok_bind]
    obtain ⟨n, u, hrounds, hending⟩ :=
      (lock.recorded.pollerBy cache.recorded time.recorded).exists_rounds interval deadline bound t
    rcases hrun : (lock.recorded.pollerBy cache.recorded time.recorded).run interval deadline bound t
      with ⟨fault | _ | _, v⟩
    · rw [hrun] at hending
      rw [Run.bind_error _ hrun]
      exact .polled hn hd hrounds hending (.refl v)
    · rw [hrun] at hending
      rw [Run.bind_ok _ hrun]
      exact .polled hn hd hrounds hending (.record _ v)
    · rw [hrun] at hending
      rw [Run.bind_ok _ hrun]
      exact .polled hn hd hrounds hending (.refl v)

/-- What an acquisition asks that returns. -/
theorem Acquired.waited [Measured τ π] [lock.token.Lawful]
    (hnoted : ∀ entry s, lock.token.read (Journal.record entry s) = lock.token.read s)
    {answer : Value} {w v : Recorded σ τ π}
    (h : Acquired cache time lock interval deadlineOf bound w (.ok answer, v)) :
    ∃ obtained start deadline acts, answer = .bool obtained ∧ deadlineOf start = .ok deadline ∧
      v.2 = w.2 ++ .read (.ok start) :: acts ∧
      Waited lock interval deadline acts obtained (lock.token.read v.1) := by
  generalize hran : (Except.ok answer, v) = ran at h
  cases h with
  | unstarted hn => cases congrArg Prod.fst hran
  | endless hn hd => cases congrArg Prod.fst hran
  | @polled start deadline _ outcome t u v₁ _ hn hd hrounds hending hnote =>
    obtain ⟨houtcome, rfl⟩ := Prod.mk.inj hran
    cases hending with
    | exhausted _ => cases houtcome
    | failed _ hs => cases houtcome
    | @ended _ obtained _ _ hs =>
      obtain ⟨rounds, hfits, hacts⟩ := hrounds.acts
      obtain ⟨last, hlast, hl⟩ := hs.last hnoted
      refine ⟨obtained, start, deadline, rounds.flatMap (Round.acts lock) ++ last,
        Except.ok.inj houtcome, hd, ?_, ?_⟩
      · rw [hnote.private_eq, hlast, hacts, (Timepiece.recorded_now hn).2]
        simp
      · rw [hnote.shared.eq_of lock.token.read hnoted]
        exact .intro hfits hl

/-! ### Writing down changes nothing -/

omit [Pace τ π] in
theorem recorded_attempt_agree (cache : CacheService σ) (lock : Cached σ) :
    Run.Agree Run.Shares (lock.recorded.attempt (cache.recorded (τ := τ) (π := π)))
      (lock.attempt cache) := by
  refine (Run.Agree.logged _ _).bind fun token => (Run.Agree.logged _ _).bind fun added => ?_
  refine .ite ((Run.Agree.change ?_).bind fun _ => ?_) (.pure false)
  · rintro w _ rfl
    rfl
  · exact (Run.Agree.note Run.Shares.journaled _ _ _).bind fun _ => .pure true

/-- **Writing down what is asked changes nothing.** -/
theorem recorded_acquireBy_agree (cache : CacheService σ) (time : Timepiece σ τ π) (lock : Cached σ)
    (interval : π) (deadlineOf : τ → Except Fault τ) (bound : Nat) :
    Run.Agree Run.Shares
      (lock.recorded.acquireBy cache.recorded time.recorded interval deadlineOf bound)
      (lock.acquireBy cache time interval deadlineOf bound) := by
  refine (Run.Agree.logged _ _).bind fun start => (Run.Agree.ofExcept _).bind fun deadline => ?_
  have hstep : Run.Agree Run.Shares
      ((lock.recordedPoller cache time).step interval deadline)
      ((lock.pollerBy cache time).step interval deadline) := by
    refine (recorded_attempt_agree cache lock).bind fun obtained => .ite (.pure _) ?_
    refine (Run.Agree.logged _ _).bind fun now => .ite (.pure _) ?_
    exact (Run.Agree.ofExcept _).bind fun pause => (Run.Agree.witnessed _ _).bind fun _ => .pure none
  refine (hstep.untilSome bound).bind fun obtained => ?_
  cases obtained with
  | true => exact .pure _
  | false => exact (Run.Agree.note Run.Shares.journaled _ _ _).bind fun _ => .pure _

/-- So what an acquisition comes to can be read off the one that is written down. -/
theorem Cached.acquireBy_eq_recorded (lock : Cached σ) (cache : CacheService σ)
    (time : Timepiece σ τ π) (interval : π) (deadlineOf : τ → Except Fault τ) (bound : Nat) (s : σ) :
    let ran := lock.recorded.acquireBy cache.recorded time.recorded interval deadlineOf bound (s, [])
    lock.acquireBy cache time interval deadlineOf bound s = (ran.1, ran.2.1) := by
  obtain ⟨hout, hworld⟩ :=
    recorded_acquireBy_agree cache time lock interval deadlineOf bound (s, []) s rfl
  exact Prod.ext hout.symm hworld.symm

end Acquisitions

/-! ### In doubles -/

section Doubles

variable [Journal σ]

theorem Cached.recorded_acquire_eq (lock : Cached σ) (env : Surroundings σ) (time : Value)
    (unit : TimeUnit) : lock.recorded.acquire env.recorded time unit
      = lock.recorded.acquireBy env.toCacheService.recorded env.timepiece.recorded lock.pollInterval
          (deadlineOf time unit) env.patience :=
  acquire_eq env.recorded lock.recorded time unit

theorem Cached.acquire_eq_recorded (lock : Cached σ) (env : Surroundings σ) (time : Value)
    (unit : TimeUnit) (s : σ) :
    let ran := lock.recorded.acquire env.recorded time unit (s, [])
    lock.acquire env time unit s = (ran.1, ran.2.1) := by
  intro ran
  rw [acquire_eq, show ran = _ from congrFun (lock.recorded_acquire_eq env time unit) (s, [])]
  exact lock.acquireBy_eq_recorded ..

/-- An acquisition in doubles, round by round. -/
theorem Cached.recorded_acquired (lock : Cached σ) (env : Surroundings σ) (time : Value)
    (unit : TimeUnit) (w : Recorded σ Float Value) :
    Acquired env.toCacheService env.timepiece lock lock.pollInterval (deadlineOf time unit)
      env.patience w (lock.recorded.acquire env.recorded time unit w) :=
  lock.recorded_acquire_eq env time unit ▸ acquired ..

end Doubles

end Lock

end TimedLock
