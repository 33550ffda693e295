import TimedLock.Proofs.Lock.CachedSteps
import TimedLock.Proofs.Lock.MemoryCache
import TimedLock.Proofs.Lock.WaitLength

/-!
# A key that comes free during a wait

**Theorem (`freed_key_obtained`).** If a key is free from the time `t` on, and that is not after the
deadline, an acquisition that waits for the key obtains it: at the deadline at the latest, and not
later than one poll interval after `t`. It does not matter whether the key was given back during a
sleep, or expired.

A try that fails found the key taken, so it was made at `t` at the latest, and the sleep after it
ends one interval later or at the deadline (`Poller.Rounds.clock_le`). A wait that gives up made its
last try at the deadline, when the key was free.
-/

namespace TimedLock.Lock

variable {σ τ π δ γ : Type}

/-- What the clock of a cache reads, as a rational number. -/
def clockBy [LE δ] [DecidableLE δ] (reading : δ → ℚ) (view : σ → View δ γ) (w : σ) : ℚ :=
  reading (view w).clock

/-- Whether nothing is stored under a key. -/
def IsFree [LE δ] [DecidableLE δ] (view : σ → View δ γ) (key : String) (w : σ) : Prop :=
  (view w).live key = none

instance [LE δ] [DecidableLE δ] (view : σ → View δ γ) (key : String) :
    DecidablePred (IsFree view key) := fun w =>
  inferInstanceAs (Decidable ((view w).live key = none))

/-- From the time `t` on a key is free whenever it is tried: in the world `s`, and after some
sleeps. At the time `t` itself it may still be taken if that is before the deadline `d`, as the key
may be given back at that time, but only in the sleep that follows. -/
def FreeFrom (free : σ → Prop) (clock : σ → ℚ) (t d : ℚ) (s : σ) (naps : List (σ × σ)) : Prop :=
  ∀ w ∈ s :: naps.map Prod.snd, t ≤ clock w → free w ∨ (clock w = t ∧ t < d)

instance (free : σ → Prop) [DecidablePred free] (clock : σ → ℚ) (t d : ℚ) (s : σ)
    (naps : List (σ × σ)) : Decidable (FreeFrom free clock t d s naps) :=
  inferInstanceAs (Decidable (∀ w ∈ s :: naps.map Prod.snd, _ → _ ∨ (_ ∧ _)))

theorem FreeFrom.mono {free : σ → Prop} {clock : σ → ℚ} {t d : ℚ} {s : σ}
    {naps naps' : List (σ × σ)} (h : FreeFrom free clock t d s naps') (hsub : naps ⊆ naps') :
    FreeFrom free clock t d s naps := by
  intro w hw
  refine h w ?_
  rw [List.mem_cons] at hw ⊢
  exact hw.imp_right fun hw => List.map_subset _ hsub hw

/-- It does not matter in which of two worlds a wait starts, as far as the key and the clock go. -/
theorem FreeFrom.of_start {free : σ → Prop} {clock : σ → ℚ} {t d : ℚ} {s s' : σ}
    {naps : List (σ × σ)} (h : FreeFrom free clock t d s naps) (hfree : free s → free s')
    (hclock : clock s' = clock s) : FreeFrom free clock t d s' naps := by
  intro w hw hle
  obtain rfl | hw := List.mem_cons.1 hw
  · rw [hclock] at hle ⊢
    exact (h s List.mem_cons_self hle).imp_left hfree
  · exact h w (List.mem_cons_of_mem _ hw) hle

theorem Counted.naps_subset {adds sleeps : Nat} {w v : Recorded σ τ π}
    (h : Counted adds sleeps w v) : naps w.2 ⊆ naps v.2 := by
  obtain ⟨acts, hlog, -, -⟩ := h
  rw [hlog, naps, naps, List.filterMap_append]
  exact List.subset_append_left _ _

section Waits

variable [Journal σ] [Preorder δ] [DecidableLE δ] [Add δ] {cache : CacheService σ}
  {time : Timepiece σ τ π} {lock : Cached σ} {view : σ → View δ γ} {lifetimes : Lifetimes δ}
  {reading : δ → ℚ}

/-- Where a cache does what a cache does, nothing but sleeping moves its clock. -/
theorem Faithful.still (h : Faithful cache view lifetimes) (hexpire : lifetimes.admits lock.expire)
    (hwrite : ∀ token w, clockBy reading view (lock.token.write token w) = clockBy reading view w)
    (hnow : ∀ w, view (time.now w).2 = view w) :
    Still cache time lock (clockBy reading view) where
  now w := by
    unfold clockBy
    rw [hnow]
  drawToken w := by
    obtain ⟨token, t, hd, -, ht⟩ := h.drawToken w
    unfold clockBy
    rw [hd, ht]
    rfl
  add token w := by
    unfold clockBy
    cases hl : (view w).live lock.key with
    | none =>
      obtain ⟨answer, t, ha, -, ht⟩ := h.add_free lock.key token lock.expire w hexpire hl
      rw [ha, ht]
      rfl
    | some entry =>
      obtain ⟨answer, t, ha, -, ht⟩ := h.add_taken lock.key token lock.expire w entry hexpire hl
      rw [ha, ht]
  write := hwrite
  record entry w := by
    unfold clockBy
    rw [h.record]

/-- A key that is not obtained was not free. -/
theorem Sought.not_isFree (h : Faithful cache view lifetimes)
    (hexpire : lifetimes.admits lock.expire) {w v : Recorded σ τ π}
    (htry : Sought cache lock w (.ok false, v)) : ¬ IsFree view lock.key w.1 := by
  intro hfree
  cases htry with
  | @refused token answer t u hd ha hv =>
    obtain ⟨token', t', hd', -, ht⟩ := h.drawToken w.1
    obtain ⟨-, rfl⟩ := Prod.mk.inj (hd.symm.trans hd')
    have hlive : (view t).live lock.key = none := by
      rw [ht]
      exact hfree
    obtain ⟨answer', u', ha', htrue, -⟩ := h.add_free lock.key token lock.expire t hexpire hlive
    obtain ⟨hanswer, -⟩ := Prod.mk.inj (ha.symm.trans ha')
    rw [← Except.ok.inj hanswer, hv] at htrue
    cases htrue

/-! ## Polls -/

variable [Pace τ π] {interval : π} {deadlineOf : τ → Except Fault τ} {deadline : τ}
  {p c d t T : ℚ} {n bound : Nat} {w v u : Recorded σ τ π} {s : σ}

/-- The world after the last of some rounds is one after a sleep. -/
theorem Poller.Rounds.mem_tried
    (h : (lock.recordedPoller cache time).Rounds interval deadline n w v) :
    v.1 ∈ w.1 :: (naps v.2).map Prod.snd := by
  cases h with
  | refl => exact List.mem_cons_self
  | @snoc _ _ u _ _ _ hs =>
    cases hs with
    | @slept _ u _ _ pause _ _ _ _ hs =>
      have hlog : v.2 = u.2 ++ [.slept pause (.ok ()) u.1 v.1] := (Timepiece.recorded_sleep hs).2
      refine List.mem_cons_of_mem _ (List.mem_map.2 ⟨(u.1, v.1), ?_, rfl⟩)
      rw [hlog, naps, List.filterMap_append]
      exact List.mem_append_right _ List.mem_cons_self

/-- Nor was it free at a poll that goes on, or gives up. -/
theorem Poller.Stepped.not_isFree (hcache : Faithful cache view lifetimes)
    (hexpire : lifetimes.admits lock.expire) {nap : List (Recorded σ τ π × Recorded σ τ π)}
    {result : Option Bool}
    (h : (lock.recordedPoller cache time).Stepped interval deadline w nap (.ok result) v)
    (hr : result ≠ some true) : ¬ IsFree view lock.key w.1 := by
  cases h with
  | obtained => exact absurd rfl hr
  | expired ha _ _ => exact (Cached.sought_of ha).not_isFree hcache hexpire
  | slept ha _ _ _ _ => exact (Cached.sought_of ha).not_isFree hcache hexpire

variable [Measured τ π] {outcome : Except Fault Bool}

section Free

variable (hcache : Faithful cache view lifetimes) (hexpire : lifetimes.admits lock.expire)
  (hclock : Followed cache time lock (clockBy reading view) interval deadline p c d)
  (hsleeps : Sleeps time (clockBy reading view) p c d (· = ·)) (hw : clockBy reading view w.1 = c)

include hcache hexpire hclock hsleeps hw

/-- **The last round** is over by the first try at which the key must be free. -/
theorem Poller.Rounds.clock_le
    (h : (lock.recordedPoller cache time).Rounds interval deadline n w v)
    (hfree : FreeFrom (IsFree view lock.key) (clockBy reading view) t d w.1 (naps v.2)) :
    clockBy reading view v.1 ≤ min (max t c + p) d := by
  cases h with
  | refl =>
    rw [hw]
    exact le_min (by linarith [le_max_right t c, hclock.pos]) hclock.le
  | @snoc n _ u _ nap hrounds hs =>
    have hcu : c ≤ clockBy reading view u.1 := hrounds.le hclock hw hsleeps.le
    obtain ⟨_, -, hcounted, -⟩ := hs.counted
    -- the key was not free at the try before the sleep, so that was at `t` at the latest
    have hut : clockBy reading view u.1 ≤ t := by
      have htaken : ¬ IsFree view lock.key u.1 := hs.not_isFree hcache hexpire nofun
      by_contra hlt
      obtain hnone | ⟨heq, -⟩ :=
        hfree.mono hcounted.naps_subset u.1 hrounds.mem_tried (le_of_not_ge hlt)
      · exact htaken hnone
      · exact hlt heq.le
    rw [← hs.sleeps hclock hcu hsleeps]
    gcongr
    exact hut.trans (le_max_left t c)

/-- **A wait for a key that comes free** obtains the mutex in time. -/
theorem Poller.Ending.obtained
    (hrounds : (lock.recordedPoller cache time).Rounds interval deadline n w u)
    (h : (lock.recordedPoller cache time).Ending interval deadline bound n u (outcome, v))
    (hb : ⌈(d - c) / p⌉₊ < bound) (hanswered : ∀ act ∈ v.2, act.isAnswered = true) (ht : t ≤ d)
    (hfree : FreeFrom (IsFree view lock.key) (clockBy reading view) t d w.1 (naps v.2)) :
    outcome = .ok true ∧ clockBy reading view v.1 ≤ min (max t c + p) d := by
  obtain ⟨obtained, rfl⟩ := h.exists_ok hclock hw hrounds hsleeps.le hb hanswered
  cases h with
  | ended _ hs =>
    obtain ⟨_, -, hcounted, -⟩ := hs.counted
    have hfree' := hfree.mono hcounted.naps_subset
    cases obtained with
    | true =>
      refine ⟨rfl, ?_⟩
      rw [hs.clock_eq hclock]
      exact hrounds.clock_le hcache hexpire hclock hsleeps hw hfree'
    | false =>
      -- the last try would have been at the deadline, when the key was free
      have hlate : d ≤ clockBy reading view u.1 :=
        hs.le_of_late hclock (hrounds.le hclock hw hsleeps.le)
      obtain hnone | ⟨heq, hlt⟩ := hfree' u.1 hrounds.mem_tried (ht.trans hlate)
      · exact absurd hnone (hs.not_isFree hcache hexpire (by simp))
      · linarith

end Free

/-- An acquisition that obtains the mutex, at the time `d` at the latest. -/
structure Obtains (clock : σ → ℚ) (d : ℚ) (ran : Except Fault Value × Recorded σ τ π) : Prop where
  answer : ran.1 = .ok (.bool true)
  clock_le : clock ran.2.1 ≤ d

theorem Acquired.obtains (hT : 0 ≤ T) (hp : 0 < p) (ht : t ≤ clockBy reading view s + T)
    (hcache : Faithful cache view lifetimes) (hexpire : lifetimes.admits lock.expire)
    (hwrite : ∀ token w, clockBy reading view (lock.token.write token w) = clockBy reading view w)
    (hnow : ∀ w, view (time.now w).2 = view w)
    (htold : Told time interval deadlineOf (clockBy reading view) T p s)
    (hsleeps : Sleeps time (clockBy reading view) p (clockBy reading view s)
      (clockBy reading view s + T) (· = ·))
    (hb : ⌈T / p⌉₊ < bound) {ran : Except Fault Value × Recorded σ τ π}
    (hanswered : ∀ act ∈ ran.2.2, act.isAnswered = true)
    (hfree : FreeFrom (IsFree view lock.key) (clockBy reading view) t (clockBy reading view s + T) s
      (naps ran.2.2))
    (h : Acquired cache time lock interval deadlineOf bound (s, []) ran) :
    Obtains (clockBy reading view) (min (max t (clockBy reading view s) + p)
      (clockBy reading view s + T)) ran := by
  have hstill : Still cache time lock (clockBy reading view) := hcache.still hexpire hwrite hnow
  rw [← ceil_div_eq (clockBy reading view s)] at hb
  cases h.timed hT hp hstill htold with
  | unread hn =>
    obtain ⟨act, hact, hno⟩ := Timepiece.unanswered hn
    rw [hanswered act hact] at hno
    cases hno
  | @polled start _ _ _ u _ v v' hn hw hfollowed hrounds hending hlog hend =>
    have hseen : view u.1 = view s := by
      have := hnow s
      rwa [show time.now s = (.ok start, u.1) from (Timepiece.recorded_now hn).1] at this
    have hfree' : FreeFrom (IsFree view lock.key) (clockBy reading view) t
        (clockBy reading view s + T) u.1 (naps v'.2) :=
      hfree.of_start (fun hs => (congrArg (View.live · lock.key) hseen).trans hs) hw
    obtain ⟨rfl, hclock⟩ := hending.obtained hcache hexpire hfollowed hsleeps hw hrounds hb
      (hlog ▸ hanswered) ht (hlog ▸ hfree')
    exact ⟨rfl, hend.trans_le hclock⟩

end Waits

/-- **A key that comes free during a wait** is obtained, if it stays free: not later than one
interval after that, and not after the deadline. This is so by a clock that tells rational numbers,
and in doubles as far as these tell time exactly. Writing down what is asked changes nothing. -/
theorem freed_key_obtained [Journal σ] [Preorder δ] [DecidableLE δ] [Add δ] (view : σ → View δ γ)
    {lifetimes : Lifetimes δ} (reading : δ → ℚ) {T p t : ℚ} (hT : 0 ≤ T) (hp : 0 < p)
    (lock : Cached σ) (hexpire : lifetimes.admits lock.expire)
    (hwrite : ∀ token w, clockBy reading view (lock.token.write token w) = clockBy reading view w)
    (s : σ) (ht : t ≤ clockBy reading view s + T) :
    let clock := clockBy reading view
    let d := clock s + T
    (∀ (cache : CacheService σ) (time : Timepiece σ ℚ ℚ) (bound : Nat), ⌈T / p⌉₊ < bound →
      Faithful cache view lifetimes → (∀ w, view (time.now w).2 = view w) →
      (∀ w now u, time.now w = (.ok now, u) → now = clock w) →
      Sleeps time clock p (clock s) d (· = ·) →
      let ran := lock.recorded.acquireBy cache.recorded time.recorded p
        (fun start => .ok (start + T)) bound (s, [])
      (∀ act ∈ ran.2.2, act.isAnswered = true) →
      FreeFrom (IsFree view lock.key) clock t d s (naps ran.2.2) →
      lock.acquireBy cache time p (fun start => .ok (start + T)) bound s = (ran.1, ran.2.1) ∧
        Obtains clock (min (max t (clock s) + p) d) ran) ∧
    ∀ (env : Surroundings σ) (time : Value) (unit : TimeUnit), ⌈T / p⌉₊ < env.patience →
      Faithful env.toCacheService view lifetimes → (∀ w, view (env.now w).2 = view w) →
      Told env.timepiece lock.pollInterval (Cached.deadlineOf time unit) clock T p s →
      Sleeps env.timepiece clock p (clock s) d (· = ·) →
      let ran := lock.recorded.acquire env.recorded time unit (s, [])
      (∀ act ∈ ran.2.2, act.isAnswered = true) →
      FreeFrom (IsFree view lock.key) clock t d s (naps ran.2.2) →
      lock.acquire env time unit s = (ran.1, ran.2.1) ∧
        Obtains clock (min (max t (clock s) + p) d) ran := by
  intro clock d
  constructor
  · intro cache time bound hb hcache hview hnow hsleeps ran hanswered hfree
    exact ⟨lock.acquireBy_eq_recorded .., (acquired ..).obtains hT hp ht hcache hexpire hwrite hview
      (told_rational hnow T p s) hsleeps hb hanswered hfree⟩
  · intro env time unit hb hcache hview htold hsleeps ran hanswered hfree
    exact ⟨lock.acquire_eq_recorded .., (lock.recorded_acquired ..).obtains hT hp ht hcache hexpire
      hwrite hview htold hsleeps hb hanswered hfree⟩

/-! ### A report that is given back, and one that expires -/

namespace Report

/-- A cache in memory, the token of a rival and the token of the one who waits. -/
abbrev World := Memory × Option String × Option String

def design : Design := ⟨.text "report", .int 60, .int 1⟩

/-- The mutex of the rival. -/
def rival : Cached World := design.mutex ⟨Prod.fst, fun token w => (token, w.2)⟩

/-- The mutex of the one who waits. -/
def mutex : Cached World := design.mutex ⟨Prod.snd, fun token w => (w.1, token)⟩

/-- The clock of the cache, up to three seconds. -/
def dial (now : Seconds) : Dial := .showing now.count.toNat

/-- One more second on that clock. -/
def tick (w : World) : World := ({ w.1 with clock := ⟨(dial w.1.clock).seconds.val + 1⟩ }, w.2)

/-- Surroundings where nobody else does anything. -/
def quiet : Surroundings World :=
  { Memory.surroundings.shared with
    now := .look fun w => (dial w.1.clock).reading
    sleep := fun _ => .change tick }

/-- After one second the rival gives its key back. -/
def visit : Run World Unit := do
  let now ← .look fun w => w.1.clock.count
  if now = 1 then (rival.release quiet.toCacheService).forget else pure ()

/-- A clock of rational numbers, and sleeps that begin with a visit of the rival. -/
def busy : Timepiece World ℚ ℚ where
  now := .look fun w => (dial w.1.clock).clock
  sleep _ := do
    visit
    .change tick

/-- The rival has the key. -/
def taken (expire : Value) : World :=
  (Memory.fresh.put design.key "rival" expire, some "rival", none)

/-- What is seen of such a world. -/
abbrev view : World → View Seconds (Unit × Option String × Option String) :=
  View.besides Memory.view

/-- What its clock reads. -/
abbrev reading (now : Seconds) : ℚ := (dial now).clock

theorem faithful : Faithful quiet.toCacheService view wholeSeconds :=
  Memory.faithful.shared.toFaithful

theorem clock_succ (dial : Dial) :
    reading ⟨dial.seconds.val + 1⟩ = min (dial.clock + 1) 3 := by
  rcases dial with ⟨seconds⟩
  fin_cases seconds <;> decide +kernel

theorem clock_tick (w : World) :
    clockBy reading view (tick w) = min (clockBy reading view w + 1) 3 :=
  clock_succ (dial w.1.clock)

theorem clock_visit (w : World) : clockBy reading view (visit w).2 = clockBy reading view w := by
  have hclock : (visit w).2.1.clock = w.1.clock := by
    unfold visit
    rw [Run.look_bind_apply]
    by_cases h : w.1.clock.count = 1
    · rw [if_pos h, Run.forget_snd]
      exact release_clock Memory.faithful.toFaithful design _ w
    · rw [if_neg h]
      rfl
  exact congrArg reading hclock

theorem sleeps_quiet (w : World) :
    Sleeps quiet.timepiece (clockBy reading view) 1 (clockBy reading view w) 3 (· = ·) := by
  rintro pause w _ - - - ⟨rfl⟩
  exact (clock_tick w).symm

theorem sleeps_busy (w : World) :
    Sleeps busy (clockBy reading view) 1 (clockBy reading view w) 3 (· = ·) := by
  intro pause w t _ _ _ hslept
  have hvisit := clock_visit w
  rcases hv : visit w with ⟨fault | _, w'⟩
  · cases congrArg Prod.fst ((Run.bind_error _ hv).symm.trans hslept)
  · obtain rfl : tick w' = t := congrArg Prod.snd ((Run.bind_ok _ hv).symm.trans hslept)
    rw [hv] at hvisit
    rw [clock_tick, hvisit]

end Report

/-- Three seconds are enough if the rival gives the key back after one second, during a sleep: the
key is obtained one second later. They are also enough if the key expires after two seconds. -/
theorem report_obtained :
    let freed := Report.mutex.recorded.acquireBy Report.quiet.toCacheService.recorded
      Report.busy.recorded 1 (fun start => .ok (start + 3)) 4 (Report.taken .null, [])
    let expired := Report.mutex.recorded.acquire Report.quiet.recorded (.int 3) .seconds
      (Report.taken (.int 2), [])
    Obtains (clockBy Report.reading Report.view) 2 freed ∧
      Obtains (clockBy Report.reading Report.view) 3 expired := by
  intro freed expired
  have hstart (expire : Value) : clockBy Report.reading Report.view (Report.taken expire) = 0 :=
    congrArg Report.reading (show (Report.taken expire).1.clock = ⟨0⟩ from rfl)
  have hend (expire : Value) :
      clockBy Report.reading Report.view (Report.taken expire) + 3 = 3 := by
    rw [hstart, zero_add]
  have hexpire : wholeSeconds.admits Report.mutex.expire := .inr ⟨60, rfl⟩
  obtain ⟨hfreed, -⟩ := freed_key_obtained (T := 3) (p := 1) (t := 1) Report.view Report.reading
    (by decide +kernel) (by decide +kernel) Report.mutex hexpire (fun _ _ => rfl)
    (Report.taken .null) (by decide +kernel)
  obtain ⟨-, hexpired⟩ := freed_key_obtained (T := 3) (p := 1) (t := 2) Report.view Report.reading
    (by decide +kernel) (by decide +kernel) Report.mutex hexpire (fun _ _ => rfl)
    (Report.taken (.int 2)) (by decide +kernel)
  obtain ⟨-, hfreed⟩ := hfreed Report.quiet.toCacheService Report.busy 4 (by decide +kernel)
    Report.faithful (fun _ => rfl) (by rintro _ _ _ ⟨rfl, rfl⟩; rfl)
    (by rw [hend]; exact Report.sleeps_busy _) (by decide +kernel) (by decide +kernel)
  obtain ⟨-, hexpired⟩ := hexpired Report.quiet (.int 3) .seconds (by decide +kernel)
    Report.faithful (fun _ => rfl)
    (Dial.told (fun w : Report.World => Report.dial w.1.clock) (fun _ => rfl) rfl rfl)
    (by rw [hend]; exact Report.sleeps_quiet _) (by decide +kernel) (by decide +kernel)
  rw [hend, hstart] at hfreed hexpired
  have hsecond : min (max (1 : ℚ) 0 + 1) 3 = 2 := by decide +kernel
  have hthird : min (max (2 : ℚ) 0 + 1) 3 = 3 := by decide +kernel
  rw [hsecond] at hfreed
  rw [hthird] at hexpired
  exact ⟨hfreed, hexpired⟩

end TimedLock.Lock
