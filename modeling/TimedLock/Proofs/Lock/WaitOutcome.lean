import TimedLock.Proofs.Lock.MemoryCache
import TimedLock.Proofs.Lock.WaitRecord

/-!
# The outcome of a wait

**Theorem (`waits_in_rounds`).** An acquisition of a cache mutex that returns went in rounds
(`Waited`). Every try adds the key of the mutex, for as long as the mutex says, with a token that
was drawn for it. The last try alone can obtain the mutex, which then holds the token of that try;
otherwise no time was left right after it. And an acquisition that does not obtain the mutex leaves
its token alone, unless others change it during a sleep.

Nothing is asked of the cache but that it leaves the token alone, so the theorem holds whatever the
cache answers, and whatever happens during the sleeps.
-/

namespace TimedLock.Lock

open Holding

variable {σ τ π δ : Type}

/-! ## What a failed acquisition leaves alone -/

/-- More acts are written down, and a part of the world changed during the sleeps among them only.
-/
def Resting (part : σ → δ) (w v : Recorded σ τ π) : Prop :=
  ∃ acts, v.2 = w.2 ++ acts ∧ Untouched part w.1 (naps acts) v.1

namespace Resting

variable {part : σ → δ} {w v u : Recorded σ τ π}

theorem of_awake {acts : List (Act σ τ π)} (hlog : v.2 = w.2 ++ acts) (hawake : naps acts = [])
    (h : part v.1 = part w.1) : Resting part w v := ⟨acts, hlog, hawake ▸ h⟩

theorem refl (w : Recorded σ τ π) : Resting part w w := of_awake (List.append_nil _).symm rfl rfl

theorem trans (h : Resting part w v) (h' : Resting part v u) : Resting part w u := by
  obtain ⟨acts, hlog, hpart⟩ := h
  obtain ⟨acts', hlog', hpart'⟩ := h'
  refine ⟨acts ++ acts', by rw [hlog', hlog, List.append_assoc], ?_⟩
  rw [naps, List.filterMap_append]
  exact hpart.trans hpart'

end Resting

section Failures

variable [Journal σ] {env : Surroundings σ} {lock : Cached σ} {stored : σ → δ}
  {w v : Recorded σ Float Value} {interval : Value} {deadline : Float} {n bound : Nat}
  {nap : List (Recorded σ Float Value × Recorded σ Float Value)}

theorem Sought.resting (hc : lock.Calm env stored) {answer : Except Fault Bool}
    (h : Sought env.toCacheService lock w (answer, v)) (ha : answer ≠ .ok true) :
    Resting (lock.kept stored) w v := by
  have drawn {token : Except Fault String} {t : σ} (hd : env.drawToken w.1 = (token, t)) :
      lock.kept stored t = lock.kept stored w.1 := by
    have := hc.drawToken w.1
    rwa [hd] at this
  have added {token : String} {added : Except Fault Value} {t u : σ}
      (hadd : env.add lock.key token lock.expire t = (added, u)) (hno : isGrant added = false) :
      lock.kept stored u = lock.kept stored t := by
    have := hc.add lock.key token lock.expire t
    rw [hadd] at this
    exact this hno
  cases h with
  | undrawn hd => exact .of_awake rfl rfl (drawn hd)
  | unadded hd hadd => exact .of_awake rfl rfl ((added hadd rfl).trans (drawn hd))
  | refused hd hadd hv => exact .of_awake rfl rfl ((added hadd hv).trans (drawn hd))
  | obtained => exact absurd rfl ha

theorem resting_now (hc : lock.Calm env stored) {answer : Except Fault Float}
    (h : env.timepiece.recorded.now w = (answer, v)) : Resting (lock.kept stored) w v := by
  obtain ⟨hnow, hlog⟩ := Timepiece.recorded_now h
  refine .of_awake hlog rfl ?_
  have := hc.now w.1
  rwa [show env.now w.1 = (answer, v.1) from hnow] at this

omit [Journal σ] in
theorem resting_sleep {part : σ → δ} {pause : Value} {answer : Except Fault Unit}
    (h : env.timepiece.recorded.sleep pause w = (answer, v)) : Resting part w v :=
  ⟨_, (Timepiece.recorded_sleep h).2, rfl, rfl⟩

/-- A poll that does not obtain the mutex. -/
theorem Poller.Stepped.resting (hc : lock.Calm env stored) {result : Except Fault (Option Bool)}
    (h : (lock.recordedPoller env.toCacheService env.timepiece).Stepped interval deadline w nap
      result v) (hr : result ≠ .ok (some true)) : Resting (lock.kept stored) w v := by
  have tried {answer : Except Fault Bool} {t : Recorded σ Float Value}
      (ha : (lock.recordedPoller env.toCacheService env.timepiece).attempt w = (answer, t))
      (hne : answer ≠ .ok true) : Resting (lock.kept stored) w t := by
    have htry : Sought env.toCacheService lock w (answer, t) := ha ▸ sought env.toCacheService lock w
    exact htry.resting hc hne
  cases h with
  | obtained ha => exact absurd rfl hr
  | untried ha => exact tried ha nofun
  | untimed ha hn => exact (tried ha (by simp)).trans (resting_now hc hn)
  | expired ha hn _ => exact (tried ha (by simp)).trans (resting_now hc hn)
  | unpaused ha hn _ _ => exact (tried ha (by simp)).trans (resting_now hc hn)
  | unslept ha hn _ _ hs =>
    exact ((tried ha (by simp)).trans (resting_now hc hn)).trans (resting_sleep hs)
  | slept ha hn _ _ hs =>
    exact ((tried ha (by simp)).trans (resting_now hc hn)).trans (resting_sleep hs)

theorem Poller.Rounds.resting (hc : lock.Calm env stored)
    (h : (lock.recordedPoller env.toCacheService env.timepiece).Rounds interval deadline n w v) :
    Resting (lock.kept stored) w v := by
  induction h with
  | refl w => exact .refl w
  | snoc _ hs ih => exact ih.trans (hs.resting hc nofun)

theorem Poller.Ending.resting (hc : lock.Calm env stored) {outcome : Except Fault Bool}
    (h : (lock.recordedPoller env.toCacheService env.timepiece).Ending interval deadline bound n w
      (outcome, v)) (ho : outcome ≠ .ok true) : Resting (lock.kept stored) w v := by
  cases h with
  | exhausted _ => exact .refl w
  | ended _ hs =>
    refine hs.resting hc ?_
    rintro ⟨⟩
    exact ho rfl
  | failed _ hs => exact hs.resting hc nofun

/-- **An acquisition that fails**, even by using up its bound. -/
theorem Acquired.resting (hc : lock.Calm env stored) {deadlineOf : Float → Except Fault Float}
    {answer : Except Fault Value}
    (h : Acquired env.toCacheService env.timepiece lock interval deadlineOf bound w (answer, v))
    (ha : answer ≠ .ok (.bool true)) : Resting (lock.kept stored) w v := by
  cases h with
  | unstarted hn => exact resting_now hc hn
  | endless hn _ => exact resting_now hc hn
  | @polled _ _ _ outcome _ _ v₁ _ hn _ hrounds hending hnoted =>
    have hrest : Resting (lock.kept stored) w v₁ :=
      ((resting_now hc hn).trans (hrounds.resting hc)).trans (hending.resting hc (by
        rintro rfl
        exact ha rfl))
    refine hrest.trans (.of_awake (hnoted.private_eq.trans (List.append_nil _).symm) rfl ?_)
    exact hnoted.shared.eq_of _ hc.noted

/-! ## The outcome of an acquisition -/

/-- **An acquisition of a cache mutex**, whatever the cache answers and whatever happens during its
sleeps. What it asks is written down, which changes nothing. If it returns, it went in rounds and
ended with a last try. Unless it obtains the mutex, it leaves alone the token of the mutex. -/
theorem waits_in_rounds [lock.token.Lawful] (hc : lock.Calm env fun _ => ()) (time : Value)
    (unit : TimeUnit) (s : σ) :
    let ran := lock.recorded.acquire env.recorded time unit (s, [])
    lock.acquire env time unit s = (ran.1, ran.2.1) ∧
      (∀ answer, ran.1 = .ok answer → ∃ obtained start seconds deadline acts,
        answer = .bool obtained ∧ unit.toSeconds time = .ok seconds ∧
        seconds.addedTo start = .ok deadline ∧ ran.2.2 = .read (.ok start) :: acts ∧
        Waited lock lock.pollInterval deadline acts obtained (lock.token.read ran.2.1)) ∧
      (ran.1 ≠ .ok (.bool true) → Untouched lock.token.read s (naps ran.2.2) ran.2.1) := by
  intro ran
  have hacquired : Acquired env.toCacheService env.timepiece lock lock.pollInterval
      (Cached.deadlineOf time unit) env.patience (s, []) ran := lock.recorded_acquired ..
  refine ⟨lock.acquire_eq_recorded .., fun answer hanswer => ?_, fun ho => ?_⟩
  · rw [show ran = (ran.1, ran.2) from rfl, hanswer] at hacquired
    obtain ⟨obtained, start, deadline, acts, hobtained, hd, hlog, hwaited⟩ :=
      hacquired.waited fun entry s => congrArg Prod.snd (hc.noted entry s)
    obtain ⟨seconds, hseconds, hdeadline⟩ := Cached.deadlineOf_ok hd
    exact ⟨obtained, start, seconds, deadline, acts, hobtained, hseconds, hdeadline, hlog, hwaited⟩
  · obtain ⟨acts, hlog, hkept⟩ := hacquired.resting hc ho
    have hacts : ran.2.2 = acts := hlog
    rw [hacts]
    exact hkept.map Prod.snd

end Failures

/-! ### A key that expires -/

/-- The cache in memory, whose clock can be read. -/
def Memory.clocked : Surroundings Memory :=
  { Memory.surroundings with now := .look fun m => .ofInt m.clock.count }

/-- A mutex for a report, that is tried every second. -/
def reportMutex : Cached (Memory × Option String) := ⟨.text "report", .int 60, .int 1, .ofPrivate⟩

/-- Another one has the key of the mutex, for two seconds. -/
def reportTaken : Memory × Option String :=
  (Memory.fresh.put reportMutex.key "another" (.int 2), none)

theorem reportMutex_calm : reportMutex.Calm Memory.clocked.shared fun _ => () where
  now _ := rfl
  drawToken _ := rfl
  add _ _ _ _ _ := rfl
  noted _ _ := rfl

/-- Half a second is too short. One second later the try fails again, and the mutex is left without
a token. Five seconds are enough: after two sleeps the key has expired. -/
theorem reportMutex_waits :
    let short := reportMutex.recorded.acquire Memory.clocked.shared.recorded (.int 500) .milliseconds
      (reportTaken, [])
    let long := reportMutex.recorded.acquire Memory.clocked.shared.recorded (.int 5) .seconds
      (reportTaken, [])
    (short.1 = .ok (.bool false) ∧
        Untouched reportMutex.token.read reportTaken (naps short.2.2) short.2.1) ∧
      long.1 = .ok (.bool true) ∧ (naps long.2.2).length = 2 ∧
      ∃ start deadline acts, long.2.2 = .read (.ok start) :: acts ∧
        Waited reportMutex reportMutex.pollInterval deadline acts true
          (reportMutex.token.read long.2.1) := by
  intro short long
  have hshort : short.1 = .ok (.bool false) := rfl
  have hlong : long.1 = .ok (.bool true) := rfl
  have : reportMutex.token.Lawful := inferInstanceAs Slot.ofPrivate.Lawful
  obtain ⟨-, -, huntouched⟩ :=
    waits_in_rounds reportMutex_calm (.int 500) .milliseconds reportTaken
  obtain ⟨-, hreturns, -⟩ := waits_in_rounds reportMutex_calm (.int 5) .seconds reportTaken
  obtain ⟨obtained, start, _, deadline, acts, hanswer, -, -, hlog, hwaited⟩ := hreturns _ hlong
  obtain rfl : true = obtained := by simpa using hanswer
  exact ⟨⟨hshort, huntouched (by rw [hshort]; simp)⟩, hlong, rfl, start, deadline, acts, hlog,
    hwaited⟩

end TimedLock.Lock
