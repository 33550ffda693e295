import Mathlib.Tactic.FinCases
import TimedLock.Proofs.Lock.WaitClock

/-!
# How long a wait lasts

**Theorem (`wait_length`).** An acquisition of a mutex that is polled every `p`, and may take the
time `T`, sleeps at most `⌈T / p⌉` times and tries at most once more, whatever the cache answers and
however far others move the clock during its sleeps. If nothing but its own sleeps moves the clock,
and every try finds the key taken, it sleeps and tries just that often, and gives up when the clock
reads `T` more than at its start.

The rounds of the wait are counted in `TimedLock.Proofs.Lock.WaitClock`. What remains is its end: a
sleep that fails also begins before the deadline, and a wait that gives up made its last try at the
deadline or later.
-/

namespace TimedLock.Lock

variable {σ τ π : Type}

/-! ## Endings -/

namespace Poller.Ending

variable [Journal σ] [Pace τ π] [Measured τ π] {cache : CacheService σ} {time : Timepiece σ τ π}
  {lock : Cached σ} {interval : π} {deadline : τ} {clock : σ → ℚ} {p c d : ℚ} {n bound : Nat}
  {w u v : Recorded σ τ π} {outcome : Except Fault Bool}
  (hclock : Followed cache time lock clock interval deadline p c d) (hw : clock w.1 = c)
  (hrounds : (lock.recordedPoller cache time).Rounds interval deadline n w u)
  (h : (lock.recordedPoller cache time).Ending interval deadline bound n u (outcome, v))

include hclock hw hrounds h

/-- How often a wait adds the key and sleeps at most. -/
theorem counted_le (hsleeps : Sleeps time clock p c d (· ≤ ·)) :
    ∃ adds sleeps, Counted adds sleeps w v ∧ adds ≤ ⌈(d - c) / p⌉₊ + 1 ∧
      sleeps ≤ ⌈(d - c) / p⌉₊ := by
  have hn : n ≤ ⌈(d - c) / p⌉₊ := hrounds.le_ceil hclock hw hsleeps
  have polled {nap : List (Recorded σ τ π × Recorded σ τ π)} {result : Except Fault (Option Bool)}
      (hs : (lock.recordedPoller cache time).Stepped interval deadline u nap result v) :
      n + nap.length ≤ ⌈(d - c) / p⌉₊ := by
    obtain rfl | ⟨first, rfl⟩ := hs.nap_cases
    · exact hn
    · exact hrounds.lt_ceil hclock hw hsleeps hs (List.cons_ne_nil _ _)
  cases h with
  | exhausted => exact ⟨n, n, hrounds.counted, by omega, hn⟩
  | ended _ hs =>
    obtain ⟨adds, hadds, hcounted, -⟩ := hs.counted
    exact ⟨_, _, hrounds.counted.trans hcounted, by omega, polled hs⟩
  | failed _ hs =>
    obtain ⟨adds, hadds, hcounted, -⟩ := hs.counted
    exact ⟨_, _, hrounds.counted.trans hcounted, by omega, polled hs⟩

/-- A wait that is answered ends by itself. -/
theorem exists_ok (hsleeps : Sleeps time clock p c d (· ≤ ·)) (hb : ⌈(d - c) / p⌉₊ < bound)
    (hanswered : ∀ act ∈ v.2, act.isAnswered = true) : ∃ obtained, outcome = .ok obtained := by
  cases h with
  | exhausted hn =>
    have := hrounds.le_ceil hclock hw hsleeps
    omega
  | ended => exact ⟨_, rfl⟩
  | failed _ hs =>
    obtain ⟨act, hact, hno⟩ := hs.unanswered hclock (hrounds.le hclock hw hsleeps)
    rw [hanswered act hact] at hno
    cases hno

/-- A wait that is answered, but never obtains the key, ends at the deadline. -/
theorem late (hsleeps : Sleeps time clock p c d (· = ·)) (hb : ⌈(d - c) / p⌉₊ < bound)
    (hanswered : ∀ act ∈ v.2, act.isAnswered = true ∧ act.isObtained = false) :
    outcome = .ok false ∧ Counted (⌈(d - c) / p⌉₊ + 1) ⌈(d - c) / p⌉₊ w v ∧ clock v.1 = d := by
  obtain ⟨obtained, rfl⟩ :=
    exists_ok hclock hw hrounds h hsleeps.le hb fun act hact => (hanswered act hact).1
  cases h with
  | ended _ hs =>
    cases obtained with
    | true =>
      obtain ⟨act, hact, hyes⟩ := hs.isObtained
      rw [(hanswered act hact).2] at hyes
      cases hyes
    | false =>
      have hu : clock u.1 = min (c + n * p) d := hrounds.clock_eq hclock hw hsleeps
      have hle : d ≤ c + n * p := by
        have hlate := hs.le_of_late hclock (hrounds.le hclock hw hsleeps.le)
        rw [hu] at hlate
        exact (le_min_iff.1 hlate).1
      have hn : n = ⌈(d - c) / p⌉₊ := by
        refine le_antisymm (hrounds.le_ceil hclock hw hsleeps.le) ?_
        rw [Nat.ceil_le, div_le_iff₀ hclock.pos]
        linarith
      obtain ⟨adds, -, hcounted, hone⟩ := hs.counted
      obtain rfl := hone rfl
      refine ⟨rfl, hn ▸ ?_, ?_⟩
      · cases hs with
        | expired => exact hrounds.counted.trans hcounted
      · rw [hs.clock_eq hclock, hu, min_eq_right hle]

end Poller.Ending

/-! ## Acquisitions -/

/-- An acquisition that goes through so many rounds at most, and returns if it is answered. -/
structure Limited (rounds : Nat) (ran : Except Fault Value × Recorded σ τ π) : Prop where
  sleeps : (naps ran.2.2).length ≤ rounds
  adds : additions ran.2.2 ≤ rounds + 1
  returns : (∀ act ∈ ran.2.2, act.isAnswered = true) → ∃ obtained, ran.1 = .ok (.bool obtained)

/-- An acquisition that goes through so many rounds and gives up at the time `d`. -/
structure TimesOut (clock : σ → ℚ) (rounds : Nat) (d : ℚ)
    (ran : Except Fault Value × Recorded σ τ π) : Prop where
  answer : ran.1 = .ok (.bool false)
  sleeps : (naps ran.2.2).length = rounds
  adds : additions ran.2.2 = rounds + 1
  clock : clock ran.2.1 = d

section Acquisitions

variable [Journal σ] [Pace τ π] [Measured τ π] {cache : CacheService σ} {time : Timepiece σ τ π}
  {lock : Cached σ} {interval : π} {deadlineOf : τ → Except Fault τ} {clock : σ → ℚ} {T p : ℚ}
  {s : σ} {bound : Nat} {ran : Except Fault Value × Recorded σ τ π}

/-- How an acquisition goes that can be followed: if it can read the clock at all, it polls until it
ends, and the clock reads at the start of its rounds what it read before. -/
inductive Timed (cache : CacheService σ) (time : Timepiece σ τ π) (lock : Cached σ) (interval : π)
    (clock : σ → ℚ) (T p : ℚ) (bound : Nat) (s : σ) : Except Fault Value × Recorded σ τ π → Prop
  | unread {fault : Fault} {t : Recorded σ τ π} : time.recorded.now (s, []) = (.error fault, t) →
      Timed cache time lock interval clock T p bound s (.error fault, t)
  | polled {start deadline : τ} {n : Nat} {outcome : Except Fault Bool} {t u v v' : Recorded σ τ π} :
      time.recorded.now (s, []) = (.ok start, t) → clock t.1 = clock s →
      Followed cache time lock clock interval deadline p (clock s) (clock s + T) →
      (lock.recordedPoller cache time).Rounds interval deadline n t u →
      (lock.recordedPoller cache time).Ending interval deadline bound n u (outcome, v) →
      v'.2 = v.2 → clock v'.1 = clock v.1 →
      Timed cache time lock interval clock T p bound s (outcome.map Value.bool, v')

theorem Acquired.timed (hT : 0 ≤ T) (hp : 0 < p) (hstill : Still cache time lock clock)
    (htold : Told time interval deadlineOf clock T p s)
    (h : Acquired cache time lock interval deadlineOf bound (s, []) ran) :
    Timed cache time lock interval clock T p bound s ran := by
  cases h with
  | unstarted hn => exact .unread hn
  | @endless start _ _ hn hd =>
    obtain ⟨deadline, hd', -⟩ := htold.deadline start _ (Timepiece.recorded_now hn).1
    cases hd.symm.trans hd'
  | @polled start deadline _ _ t _ _ _ hn hd hrounds hending hnoted =>
    have hnow : time.now s = (.ok start, t.1) := (Timepiece.recorded_now hn).1
    obtain ⟨deadline', hd', hdue⟩ := htold.deadline start t.1 hnow
    obtain rfl : deadline = deadline' := Except.ok.inj (hd.symm.trans hd')
    have hsame := hstill.now s
    rw [hnow] at hsame
    have hfollowed : Followed cache time lock clock interval deadline p (clock s) (clock s + T) := {
      still := hstill
      due := hdue
      interval := htold.interval
      pos := hp
      le := le_add_of_nonneg_right hT }
    exact .polled hn hsame hfollowed hrounds hending hnoted.private_eq
      (hnoted.shared.eq_of clock hstill.record)

/-- The time a wait may take is the one from its start to its deadline. -/
theorem ceil_div_eq (c T p : ℚ) : ⌈(c + T - c) / p⌉₊ = ⌈T / p⌉₊ := by
  rw [add_sub_cancel_left]

theorem Timed.limited (hsleeps : Sleeps time clock p (clock s) (clock s + T) (· ≤ ·))
    (hb : ⌈T / p⌉₊ < bound) (h : Timed cache time lock interval clock T p bound s ran) :
    Limited ⌈T / p⌉₊ ran := by
  rw [← ceil_div_eq (clock s)] at hb ⊢
  cases h with
  | unread hn =>
    obtain ⟨hadds, hnaps⟩ := (Timepiece.counted_now hn).of_start
    refine ⟨hnaps.trans_le (Nat.zero_le _), hadds.trans_le (Nat.zero_le _), fun hanswered => ?_⟩
    obtain ⟨act, hact, hno⟩ := Timepiece.unanswered hn
    rw [hanswered act hact] at hno
    cases hno
  | polled hn hw hfollowed hrounds hending hlog _ =>
    obtain ⟨adds, sleeps, hcounted, hadds, hnaps⟩ :=
      hending.counted_le hfollowed hw hrounds hsleeps
    obtain ⟨hadds', hnaps'⟩ := ((Timepiece.counted_now hn).trans hcounted).of_start
    rw [← hlog, Nat.zero_add] at hadds' hnaps'
    refine ⟨hnaps'.trans_le hnaps, hadds'.trans_le hadds, fun hanswered => ?_⟩
    obtain ⟨obtained, rfl⟩ := hending.exists_ok hfollowed hw hrounds hsleeps hb (hlog ▸ hanswered)
    exact ⟨obtained, rfl⟩

theorem Timed.timesOut (hsleeps : Sleeps time clock p (clock s) (clock s + T) (· = ·))
    (hb : ⌈T / p⌉₊ < bound)
    (hanswered : ∀ act ∈ ran.2.2, act.isAnswered = true ∧ act.isObtained = false)
    (h : Timed cache time lock interval clock T p bound s ran) :
    TimesOut clock ⌈T / p⌉₊ (clock s + T) ran := by
  rw [← ceil_div_eq (clock s)] at hb ⊢
  cases h with
  | unread hn =>
    obtain ⟨act, hact, hno⟩ := Timepiece.unanswered hn
    rw [(hanswered act hact).1] at hno
    cases hno
  | polled hn hw hfollowed hrounds hending hlog hclock =>
    obtain ⟨rfl, hcounted, hend⟩ :=
      hending.late hfollowed hw hrounds hsleeps hb (hlog ▸ hanswered)
    obtain ⟨hadds, hnaps⟩ := ((Timepiece.counted_now hn).trans hcounted).of_start
    rw [← hlog, Nat.zero_add] at hadds hnaps
    exact {
      answer := rfl
      sleeps := hnaps
      adds := hadds
      clock := hclock.trans hend }

/-- What is known of how long an acquisition lasts that starts in the world `s`, may take the time
`T` and polls every `p`; `ran` is the acquisition with what it asks written down. If no sleep ends
too early, it goes through no more rounds than intervals begin in the time. If no sleep ends too
late either, and the key is taken whenever it tries, it goes through that many rounds, and ends at
the deadline. -/
structure Lasting (time : Timepiece σ τ π) (clock : σ → ℚ) (T p : ℚ) (s : σ)
    (ran : Except Fault Value × Recorded σ τ π) : Prop where
  limited : Sleeps time clock p (clock s) (clock s + T) (· ≤ ·) → Limited ⌈T / p⌉₊ ran
  timesOut : Sleeps time clock p (clock s) (clock s + T) (· = ·) →
    (∀ act ∈ ran.2.2, act.isAnswered = true ∧ act.isObtained = false) →
    TimesOut clock ⌈T / p⌉₊ (clock s + T) ran

theorem Acquired.lasting (hT : 0 ≤ T) (hp : 0 < p) (hstill : Still cache time lock clock)
    (htold : Told time interval deadlineOf clock T p s) (hb : ⌈T / p⌉₊ < bound)
    (h : Acquired cache time lock interval deadlineOf bound (s, []) ran) :
    Lasting time clock T p s ran where
  limited hsleeps := (h.timed hT hp hstill htold).limited hsleeps hb
  timesOut hsleeps hanswered := (h.timed hT hp hstill htold).timesOut hsleeps hb hanswered

end Acquisitions

/-- **How long a wait lasts** for a mutex that is polled every `p`, if it may take the time `T`: by
a clock that tells rational numbers, and in doubles as far as these tell time exactly. Writing down
what is asked changes nothing. -/
theorem wait_length [Journal σ] (clock : σ → ℚ) {T p : ℚ} (hT : 0 ≤ T) (hp : 0 < p)
    (lock : Cached σ) (s : σ) :
    (∀ (cache : CacheService σ) (time : Timepiece σ ℚ ℚ) (bound : Nat), ⌈T / p⌉₊ < bound →
      Still cache time lock clock → (∀ w now t, time.now w = (.ok now, t) → now = clock w) →
      let ran := lock.recorded.acquireBy cache.recorded time.recorded p
        (fun start => .ok (start + T)) bound (s, [])
      lock.acquireBy cache time p (fun start => .ok (start + T)) bound s = (ran.1, ran.2.1) ∧
        Lasting time clock T p s ran) ∧
    ∀ (env : Surroundings σ) (time : Value) (unit : TimeUnit), ⌈T / p⌉₊ < env.patience →
      Still env.toCacheService env.timepiece lock clock →
      Told env.timepiece lock.pollInterval (Cached.deadlineOf time unit) clock T p s →
      let ran := lock.recorded.acquire env.recorded time unit (s, [])
      lock.acquire env time unit s = (ran.1, ran.2.1) ∧ Lasting env.timepiece clock T p s ran := by
  constructor
  · intro cache time bound hb hstill hnow ran
    exact ⟨lock.acquireBy_eq_recorded ..,
      (acquired ..).lasting hT hp hstill (told_rational hnow T p s) hb⟩
  · intro env time unit hb hstill htold ran
    exact ⟨lock.acquire_eq_recorded ..,
      (lock.recorded_acquired ..).lasting hT hp hstill htold hb⟩

/-! ### A clock that stops after three seconds -/

/-- A world that is nothing but a clock, which stops after three seconds. -/
structure Dial where
  seconds : Fin 4

namespace Dial

instance : Journal Dial := ⟨fun _ dial => dial⟩

/-- What the clock reads. -/
def clock (dial : Dial) : ℚ := dial.seconds.val

/-- What the clock reads, as a double. -/
def reading (dial : Dial) : Float :=
  match dial.seconds with
  | 0 => 0
  | 1 => 1
  | 2 => 2
  | 3 => 3

/-- The clock after so many seconds. -/
def showing (seconds : ℕ) : Dial := ⟨Fin.ofNat 4 (min 3 seconds)⟩

/-- The clock after some more time. -/
def after (time : ℚ) (dial : Dial) : Dial := showing (dial.seconds.val + ⌊time⌋₊)

/-- A cache where every key is taken. -/
def surroundings : Surroundings Dial where
  add _ _ _ := pure (.bool false)
  get _ := pure .null
  delete _ := pure ()
  drawToken := pure "token"
  now := .look reading
  sleep pause := .change (after ((Measured.length Float pause).getD 0))
  patience := 3

/-- The same clock, that is read as a rational number. -/
def timepiece : Timepiece Dial ℚ ℚ := ⟨.look clock, fun pause => .change (after pause)⟩

/-- A mutex that is tried every two seconds. -/
def mutex : Cached Dial := ⟨.text "job", .int 60, .int 2, ⟨fun _ => none, fun _ dial => dial⟩⟩

theorem still {time : Timepiece Dial τ π} (h : ∀ dial, (time.now dial).2 = dial) :
    Still surroundings.toCacheService time mutex clock where
  now dial := congrArg clock (h dial)
  drawToken _ := rfl
  add _ _ := rfl
  write _ _ := rfl
  record _ _ := rfl

theorem value_reading (dial : Dial) : Measured.value dial.reading = some dial.clock := by
  rcases dial with ⟨seconds⟩
  fin_cases seconds <;> decide +kernel

theorem value_left {dial : Dial} (h : dial.clock < 3) :
    Measured.value (Pace.left 3 dial.reading) = some (3 - dial.clock) := by
  rcases dial with ⟨seconds⟩
  fin_cases seconds
  · decide +kernel
  · decide +kernel
  · decide +kernel
  · exact absurd h (by decide +kernel)

/-- Where a clock is such a dial, doubles tell three seconds exactly. -/
theorem told {time : Timepiece σ Float Value} {interval : Value} {p : ℚ} (dial : σ → Dial)
    (hnow : ∀ w, time.now w = (.ok (dial w).reading, w))
    (hinterval : Measured.length Float interval = some p) {s : σ} (hs : dial s = ⟨0⟩) :
    Told time interval (Cached.deadlineOf (.int 3) .seconds) (fun w => (dial w).clock) 3 p s where
  interval := hinterval
  deadline := by
    have hend : clock ⟨0⟩ + 3 = 3 := by decide +kernel
    have hread {w u : σ} {now : Float} (hn : time.now w = (.ok now, u)) :
        (dial w).reading = now := Except.ok.inj (Prod.mk.inj ((hnow w).symm.trans hn)).1
    intro start t hn
    rw [← hread hn, hs, hend]
    refine ⟨3, rfl, fun w now u hn => ?_, by decide +kernel, fun w now u hn _ hlt => ?_⟩
    · rw [← hread hn]
      exact value_reading _
    · rw [← hread hn]
      exact value_left hlt

theorem clock_after {dial : Dial} (h : clock dial < 3) :
    clock (after (min 2 (3 - clock dial)) dial) = min (clock dial + 2) 3 := by
  rcases dial with ⟨seconds⟩
  fin_cases seconds
  · decide +kernel
  · decide +kernel
  · decide +kernel
  · exact absurd h (by decide +kernel)

theorem sleeps [Pace τ π] [Measured τ π] {time : Timepiece Dial τ π}
    (h : ∀ pause q dial, Measured.length τ pause = some q →
      (time.sleep pause dial).2 = after q dial) :
    Sleeps time clock 2 (clock ⟨0⟩) 3 (· = ·) := by
  intro pause dial t _ hlt hlength hslept
  rw [← clock_after hlt, ← h pause _ dial hlength, hslept]

end Dial

/-- Three seconds for a mutex that is tried every two seconds and is always taken: the second sleep
is cut to one second, and the third try is the last. -/
theorem dial_times_out :
    let byRationals := Dial.mutex.recorded.acquireBy Dial.surroundings.toCacheService.recorded
      Dial.timepiece.recorded 2 (fun start => .ok (start + 3)) 3 (⟨0⟩, [])
    let byDoubles := Dial.mutex.recorded.acquire Dial.surroundings.recorded (.int 3) .seconds
      (⟨0⟩, [])
    TimesOut Dial.clock 2 3 byRationals ∧ TimesOut Dial.clock 2 3 byDoubles := by
  intro byRationals byDoubles
  have hrounds : ⌈(3 : ℚ) / 2⌉₊ = 2 := by decide +kernel
  have hend : Dial.clock ⟨0⟩ + 3 = 3 := by decide +kernel
  have hdoubles (pause : Value) (q : ℚ) (dial : Dial) (h : Measured.length Float pause = some q) :
      (Dial.surroundings.sleep pause dial).2 = Dial.after q dial := by
    show Dial.after ((Measured.length Float pause).getD 0) dial = _
    rw [h]
    rfl
  have hrational (pause q : ℚ) (dial : Dial) (h : Measured.length ℚ pause = some q) :
      (Dial.timepiece.sleep pause dial).2 = Dial.after q dial := by
    rw [← Option.some.inj h]
    rfl
  obtain ⟨hlasting, hlasting'⟩ :=
    wait_length Dial.clock (T := 3) (p := 2) (by decide +kernel) (by decide +kernel) Dial.mutex ⟨0⟩
  obtain ⟨-, -, htold⟩ := hlasting Dial.surroundings.toCacheService Dial.timepiece 3
    (by decide +kernel) (Dial.still fun _ => rfl) (by rintro _ _ _ ⟨rfl, rfl⟩; rfl)
  obtain ⟨-, -, hran⟩ := hlasting' Dial.surroundings (.int 3) .seconds (by decide +kernel)
    (Dial.still fun _ => rfl) (Dial.told id (fun _ => rfl) rfl rfl)
  rw [hrounds, hend] at htold hran
  exact ⟨htold (Dial.sleeps hrational) (by decide +kernel),
    hran (Dial.sleeps hdoubles) (by decide +kernel)⟩

end TimedLock.Lock
