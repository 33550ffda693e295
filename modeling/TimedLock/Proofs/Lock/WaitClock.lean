import Mathlib.Data.Rat.Floor
import TimedLock.Proofs.Lock.WaitRecord

/-!
# The clock during a wait

What a wait asks is counted here, and its rounds are followed on a clock that stands for a rational
number in every world, and is moved by nothing but sleeps (`Still`).

Time is told exactly (`Told`) by rational numbers (`told_rational`), and by doubles as far as the
sums and differences that a wait needs are exact.

After `n` rounds from `c` on, with the deadline `d`, the clock is at `min (c + n * p) d` or later
(`Poller.Rounds.min_le`), and right there if no sleep lasts too long (`Poller.Rounds.clock_eq`). A
round begins before `d`, so there are at most `⌈(d - c) / p⌉` of them (`Poller.Rounds.le_ceil`).
-/

namespace TimedLock.Lock

open Holding

variable {σ τ π : Type}

/-! ## Counting -/

namespace Act

/-- Whether a key was to be added. -/
def isAddition : Act σ τ π → Bool
  | .added .. => true
  | _ => false

/-- Whether an answer came. -/
def isAnswered : Act σ τ π → Bool
  | .read answer => answer.isOk
  | .drew answer => answer.isOk
  | .added _ _ _ answer => answer.isOk
  | .slept _ answer _ _ => answer.isOk

/-- Whether the key was obtained. -/
def isObtained : Act σ τ π → Bool
  | .added _ _ _ answer => isGrant answer
  | _ => false

end Act

/-- How often a key was to be added. -/
def additions (acts : List (Act σ τ π)) : Nat := acts.countP Act.isAddition

/-- From one recorded world to another, with so many additions and so many sleeps on the way. -/
def Counted (adds sleeps : Nat) (w v : Recorded σ τ π) : Prop :=
  ∃ acts, v.2 = w.2 ++ acts ∧ additions acts = adds ∧ (naps acts).length = sleeps

theorem Counted.refl (w : Recorded σ τ π) : Counted 0 0 w w :=
  ⟨[], (List.append_nil _).symm, rfl, rfl⟩

theorem Counted.trans {a m b n : Nat} {w v u : Recorded σ τ π} (h : Counted a m w v)
    (h' : Counted b n v u) : Counted (a + b) (m + n) w u := by
  obtain ⟨acts, hlog, ha, hm⟩ := h
  obtain ⟨acts', hlog', hb, hn⟩ := h'
  refine ⟨acts ++ acts', by rw [hlog', hlog, List.append_assoc], ?_, ?_⟩
  · rw [additions, List.countP_append, ← ha, ← hb]
    rfl
  · rw [naps, List.filterMap_append, List.length_append, ← hm, ← hn]
    rfl

theorem Counted.of_start {adds sleeps : Nat} {s : σ} {v : Recorded σ τ π}
    (h : Counted adds sleeps (s, []) v) : additions v.2 = adds ∧ (naps v.2).length = sleeps := by
  obtain ⟨acts, hlog, hadds, hsleeps⟩ := h
  rw [hlog]
  exact ⟨hadds, hsleeps⟩

theorem Timepiece.counted_now {time : Timepiece σ τ π} {answer : Except Fault τ}
    {w v : Recorded σ τ π} (h : time.recorded.now w = (answer, v)) : Counted 0 0 w v :=
  ⟨_, (recorded_now h).2, rfl, rfl⟩

theorem Timepiece.counted_sleep {time : Timepiece σ τ π} {pause : π} {answer : Except Fault Unit}
    {w v : Recorded σ τ π} (h : time.recorded.sleep pause w = (answer, v)) : Counted 0 1 w v :=
  ⟨_, (recorded_sleep h).2, rfl, rfl⟩

theorem Timepiece.unanswered {time : Timepiece σ τ π} {fault : Fault} {w v : Recorded σ τ π}
    (h : time.recorded.now w = (.error fault, v)) : ∃ act ∈ v.2, act.isAnswered = false :=
  ⟨.read (.error fault), by simp [(recorded_now h).2], rfl⟩

/-! ## Time that is told exactly -/

section Clocks

variable [Journal σ] [Pace τ π]

/-- Nothing but sleeping moves the clock. -/
structure Still (cache : CacheService σ) (time : Timepiece σ τ π) (lock : Cached σ)
    (clock : σ → ℚ) : Prop where
  now : ∀ w, clock (time.now w).2 = clock w
  drawToken : ∀ w, clock (cache.drawToken w).2 = clock w
  add : ∀ token w, clock (cache.add lock.key token lock.expire w).2 = clock w
  write : ∀ token w, clock (lock.token.write token w) = clock w
  record : ∀ entry w, clock (Journal.record entry w) = clock w

variable [Measured τ π]

/-- What the clock reads stands for its time, and the deadline for `d`. From `c` up to the deadline
the time that is left is told exactly. -/
structure Due (time : Timepiece σ τ π) (clock : σ → ℚ) (deadline : τ) (c d : ℚ) : Prop where
  now : ∀ w now t, time.now w = (.ok now, t) → Measured.value now = some (clock w)
  value : Measured.value deadline = some d
  left : ∀ w now t, time.now w = (.ok now, t) → c ≤ clock w → clock w < d →
    Measured.value (Pace.left deadline now) = some (d - clock w)

/-- For a wait that starts in the world `s`, lasts for the time `T`, and polls every `p`, time is
told exactly. -/
structure Told (time : Timepiece σ τ π) (interval : π) (deadlineOf : τ → Except Fault τ)
    (clock : σ → ℚ) (T p : ℚ) (s : σ) : Prop where
  interval : Measured.length τ interval = some p
  deadline : ∀ start t, time.now s = (.ok start, t) → ∃ deadline, deadlineOf start = .ok deadline ∧
    Due time clock deadline (clock s) (clock s + T)

/-- A sleep until the next try or the deadline, whichever is first, brings the clock to a time that
is in the relation `r` to it. -/
def Sleeps (time : Timepiece σ τ π) (clock : σ → ℚ) (p c d : ℚ) (r : ℚ → ℚ → Prop) : Prop :=
  ∀ pause w t, c ≤ clock w → clock w < d → Measured.length τ pause = some (min p (d - clock w)) →
    time.sleep pause w = (.ok (), t) → r (min (clock w + p) d) (clock t)

omit [Journal σ] in
/-- What ends on time does not end too early. -/
theorem Sleeps.le {time : Timepiece σ τ π} {clock : σ → ℚ} {p c d : ℚ}
    (h : Sleeps time clock p c d (· = ·)) : Sleeps time clock p c d (· ≤ ·) :=
  fun pause w t hc hd hlength hslept => (h pause w t hc hd hlength hslept).le

/-- A wait from `c` until `d` with a poll every `p`, where nothing but sleeping moves the clock and
time is told exactly. -/
structure Followed (cache : CacheService σ) (time : Timepiece σ τ π) (lock : Cached σ)
    (clock : σ → ℚ) (interval : π) (deadline : τ) (p c d : ℚ) : Prop where
  still : Still cache time lock clock
  due : Due time clock deadline c d
  interval : Measured.length τ interval = some p
  pos : 0 < p
  le : c ≤ d

end Clocks

namespace Due

variable [Pace τ π] [Measured τ π] {time : Timepiece σ τ π} {clock : σ → ℚ} {deadline now : τ}
  {interval : π} {p c d : ℚ} {w t : σ}

theorem isOver_iff (h : Due time clock deadline c d) (hn : time.now w = (.ok now, t))
    (hc : c ≤ clock w) : Pace.isOver (Pace.left deadline now) = true ↔ d ≤ clock w := by
  refine ⟨fun ho => ?_, Measured.isOver_left h.value (h.now w now t hn)⟩
  by_contra hlt
  have hle := (Measured.isOver_iff (h.left w now t hn hc (not_le.1 hlt))).1 ho
  exact hlt (sub_nonpos.1 hle)

/-- Before the deadline there is a pause, which ends with the interval or at the deadline. -/
theorem pause (h : Due time clock deadline c d) (hp : Measured.length τ interval = some p)
    (hn : time.now w = (.ok now, t)) (hc : c ≤ clock w) (hlt : clock w < d) :
    ∃ pause, Pace.pause interval (Pace.left deadline now) = .ok pause ∧
      Measured.length τ pause = some (min p (d - clock w)) :=
  Measured.pause_eq hp (h.left w now t hn hc hlt)

end Due

/-- Rational numbers tell time exactly. -/
theorem told_rational {time : Timepiece σ ℚ ℚ} {clock : σ → ℚ}
    (hnow : ∀ w now t, time.now w = (.ok now, t) → now = clock w) (T p : ℚ) (s : σ) :
    Told time p (fun start => .ok (start + T)) clock T p s where
  interval := rfl
  deadline start t hn := by
    refine ⟨start + T, rfl, fun w now t hn => congrArg some (hnow w now t hn), ?_, ?_⟩
    · rw [← hnow s start t hn]
      rfl
    · intro w now t' hn' _ _
      rw [← hnow s start t hn, ← hnow w now t' hn']
      rfl

/-! ## One poll -/

section Tries

variable [Journal σ] {cache : CacheService σ} {time : Timepiece σ τ π} {lock : Cached σ}
  {clock : σ → ℚ} {answer : Except Fault Bool} {w v : Recorded σ τ π}

theorem Sought.counted (h : Sought cache lock w (answer, v)) :
    ∃ adds ≤ 1, Counted adds 0 w v ∧ (answer.isOk = true → adds = 1) := by
  cases h with
  | undrawn => exact ⟨0, Nat.zero_le 1, ⟨_, rfl, rfl, rfl⟩, nofun⟩
  | unadded => exact ⟨1, le_rfl, ⟨_, rfl, rfl, rfl⟩, nofun⟩
  | refused => exact ⟨1, le_rfl, ⟨_, rfl, rfl, rfl⟩, fun _ => rfl⟩
  | obtained => exact ⟨1, le_rfl, ⟨_, rfl, rfl, rfl⟩, fun _ => rfl⟩

theorem Sought.clock_eq (hstill : Still cache time lock clock)
    (h : Sought cache lock w (answer, v)) : clock v.1 = clock w.1 := by
  have drawn {answer : Except Fault String} {t : σ} (hd : cache.drawToken w.1 = (answer, t)) :
      clock t = clock w.1 := by
    have := hstill.drawToken w.1
    rwa [hd] at this
  have added {token : String} {answer : Except Fault Value} {t u : σ}
      (ha : cache.add lock.key token lock.expire t = (answer, u)) : clock u = clock t := by
    have := hstill.add token t
    rwa [ha] at this
  cases h with
  | undrawn hd => exact drawn hd
  | unadded hd ha => exact (added ha).trans (drawn hd)
  | refused hd ha _ => exact (added ha).trans (drawn hd)
  | obtained hd ha _ hn =>
    exact ((hn.eq_of clock hstill.record).trans (hstill.write _ _)).trans
      ((added ha).trans (drawn hd))

theorem Sought.unanswered {fault : Fault} (h : Sought cache lock w (.error fault, v)) :
    ∃ act ∈ v.2, act.isAnswered = false := by
  cases h with
  | undrawn => exact ⟨.drew (.error fault), by simp, rfl⟩
  | @unadded token =>
    exact ⟨.added lock.key token lock.expire (.error fault), by simp [Cached.asks], rfl⟩

theorem Sought.isObtained (h : Sought cache lock w (.ok true, v)) :
    ∃ act ∈ v.2, act.isObtained = true := by
  cases h with
  | @obtained token answer _ _ _ _ _ hv =>
    exact ⟨.added lock.key token lock.expire (.ok answer), by simp [Cached.asks], hv⟩

end Tries

section Polls

variable [Journal σ] [Pace τ π] {cache : CacheService σ} {time : Timepiece σ τ π} {lock : Cached σ}
  {interval : π} {deadline : τ} {clock : σ → ℚ} {p c d : ℚ} {r : ℚ → ℚ → Prop}
  {w u v : Recorded σ τ π}
  {nap : List (Recorded σ τ π × Recorded σ τ π)} {result : Except Fault (Option Bool)} {n : Nat}

omit [Pace τ π] in
theorem Cached.sought_of {answer : Except Fault Bool}
    (h : (lock.recordedPoller cache time).attempt w = (answer, v)) :
    Sought cache lock w (answer, v) := h ▸ sought cache lock w

namespace Poller.Stepped

/-- A poll is a try, and then at most a sleep. -/
theorem after_try
    (h : (lock.recordedPoller cache time).Stepped interval deadline w nap result v) :
    ∃ answer t, Sought cache lock w (answer, t) ∧ Counted 0 nap.length t v ∧
      (result.isOk = true → answer.isOk = true) := by
  cases h with
  | obtained ha => exact ⟨_, _, Cached.sought_of ha, .refl _, fun _ => rfl⟩
  | untried ha => exact ⟨_, _, Cached.sought_of ha, .refl _, nofun⟩
  | untimed ha hn => exact ⟨_, _, Cached.sought_of ha, Timepiece.counted_now hn, fun _ => rfl⟩
  | expired ha hn _ => exact ⟨_, _, Cached.sought_of ha, Timepiece.counted_now hn, fun _ => rfl⟩
  | unpaused ha hn _ _ => exact ⟨_, _, Cached.sought_of ha, Timepiece.counted_now hn, fun _ => rfl⟩
  | unslept ha hn _ _ hs =>
    exact ⟨_, _, Cached.sought_of ha,
      (Timepiece.counted_now hn).trans (Timepiece.counted_sleep hs), fun _ => rfl⟩
  | slept ha hn _ _ hs =>
    exact ⟨_, _, Cached.sought_of ha,
      (Timepiece.counted_now hn).trans (Timepiece.counted_sleep hs), fun _ => rfl⟩

/-- A poll adds the key at most once, and just once if it ends well. -/
theorem counted (h : (lock.recordedPoller cache time).Stepped interval deadline w nap result v) :
    ∃ adds ≤ 1, Counted adds nap.length w v ∧ (result.isOk = true → adds = 1) := by
  obtain ⟨answer, t, htry, hrest, hok⟩ := h.after_try
  obtain ⟨adds, hle, hcounted, hone⟩ := htry.counted
  refine ⟨adds, hle, ?_, fun hr => hone (hok hr)⟩
  simpa using hcounted.trans hrest

theorem nap_cases
    (h : (lock.recordedPoller cache time).Stepped interval deadline w nap result v) :
    nap = [] ∨ ∃ first, nap = [first] := by
  cases h with
  | unslept => exact .inr ⟨_, rfl⟩
  | slept => exact .inr ⟨_, rfl⟩
  | _ => exact .inl rfl

theorem isObtained
    (h : (lock.recordedPoller cache time).Stepped interval deadline w nap (.ok (some true)) v) :
    ∃ act ∈ v.2, act.isObtained = true := by
  cases h with
  | obtained ha => exact (Cached.sought_of ha).isObtained

variable [Measured τ π]

section Followed

variable (hclock : Followed cache time lock clock interval deadline p c d) (hc : c ≤ clock w.1)

include hclock

/-- The clock right after a failed try. -/
theorem read {t u : Recorded σ τ π} {now : τ}
    (ha : (lock.recordedPoller cache time).attempt w = (.ok false, t))
    (hn : (lock.recordedPoller cache time).now t = (.ok now, u)) :
    time.now t.1 = (.ok now, u.1) ∧ clock t.1 = clock w.1 ∧ clock u.1 = clock w.1 := by
  have hnow : time.now t.1 = (.ok now, u.1) := (Timepiece.recorded_now hn).1
  have htried : clock t.1 = clock w.1 := (Cached.sought_of ha).clock_eq hclock.still
  have hsame := hclock.still.now t.1
  rw [hnow] at hsame
  exact ⟨hnow, htried, hsame.trans htried⟩

/-- A poll that ends the wait takes no time. -/
theorem clock_eq {obtained : Bool}
    (h : (lock.recordedPoller cache time).Stepped interval deadline w nap (.ok (some obtained)) v) :
    clock v.1 = clock w.1 := by
  cases h with
  | obtained ha => exact (Cached.sought_of ha).clock_eq hclock.still
  | expired ha hn _ =>
    obtain ⟨-, -, hsame⟩ := read hclock ha hn
    exact hsame

include hc

theorem isOver_iff {t u : Recorded σ τ π} {now : τ}
    (ha : (lock.recordedPoller cache time).attempt w = (.ok false, t))
    (hn : (lock.recordedPoller cache time).now t = (.ok now, u)) :
    Pace.isOver (Pace.left deadline now) = true ↔ d ≤ clock w.1 := by
  obtain ⟨hnow, htried, -⟩ := read hclock ha hn
  rw [← htried] at hc ⊢
  exact hclock.due.isOver_iff hnow hc

/-- While time is left there is a pause, which ends with the interval or at the deadline. -/
theorem lt_of_left {t u : Recorded σ τ π} {now : τ}
    (ha : (lock.recordedPoller cache time).attempt w = (.ok false, t))
    (hn : (lock.recordedPoller cache time).now t = (.ok now, u))
    (ho : Pace.isOver (Pace.left deadline now) = false) :
    clock w.1 < d ∧ ∃ pause, Pace.pause interval (Pace.left deadline now) = .ok pause ∧
      Measured.length τ pause = some (min p (d - clock w.1)) := by
  have hlt : clock w.1 < d := by
    by_contra hle
    rw [(isOver_iff hclock hc ha hn).2 (not_lt.1 hle)] at ho
    cases ho
  obtain ⟨hnow, htried, -⟩ := read hclock ha hn
  refine ⟨hlt, ?_⟩
  rw [← htried] at hc hlt ⊢
  exact hclock.due.pause hclock.interval hnow hc hlt

/-- A poll with a sleep in it begins before the deadline. -/
theorem lt_of_nap (h : (lock.recordedPoller cache time).Stepped interval deadline w nap result v)
    (hnap : nap ≠ []) : clock w.1 < d := by
  cases h with
  | unslept ha hn ho _ _ => exact (lt_of_left hclock hc ha hn ho).1
  | slept ha hn ho _ _ => exact (lt_of_left hclock hc ha hn ho).1
  | _ => exact absurd rfl hnap

/-- A poll that gives up begins at the deadline or later. -/
theorem le_of_late
    (h : (lock.recordedPoller cache time).Stepped interval deadline w nap (.ok (some false)) v) :
    d ≤ clock w.1 := by
  cases h with
  | expired ha hn ho => exact (isOver_iff hclock hc ha hn).1 ho

/-- Where the sleep of a poll brings the clock. -/
theorem sleeps (hsleeps : Sleeps time clock p c d r)
    (h : (lock.recordedPoller cache time).Stepped interval deadline w nap (.ok none) v) :
    r (min (clock w.1 + p) d) (clock v.1) := by
  cases h with
  | slept ha hn ho hp hs =>
    obtain ⟨-, -, hsame⟩ := read hclock ha hn
    obtain ⟨hlt, pause, hpause, hlength⟩ := lt_of_left hclock hc ha hn ho
    obtain rfl := Except.ok.inj (hp.symm.trans hpause)
    rw [← hsame] at hc hlt hlength ⊢
    exact hsleeps _ _ _ hc hlt hlength (Timepiece.recorded_sleep hs).1

/-- A poll that fails got no answer. -/
theorem unanswered {fault : Fault}
    (h : (lock.recordedPoller cache time).Stepped interval deadline w nap (.error fault) v) :
    ∃ act ∈ v.2, act.isAnswered = false := by
  cases h with
  | untried ha => exact (Cached.sought_of ha).unanswered
  | untimed ha hn => exact Timepiece.unanswered hn
  | unpaused ha hn ho hp =>
    obtain ⟨-, pause, hpause, -⟩ := lt_of_left hclock hc ha hn ho
    cases hp.symm.trans hpause
  | @unslept _ u _ _ pause _ ha hn _ _ hs =>
    rw [(Timepiece.recorded_sleep hs).2]
    exact ⟨.slept pause (.error fault) u.1 v.1, by simp, rfl⟩

end Followed

end Poller.Stepped

/-! ## Rounds -/

theorem min_min_add (x : ℚ) (hp : 0 < p) : min (min x d + p) d = min (x + p) d := by
  rw [← min_add_add_right, min_assoc, min_eq_right (by linarith : d ≤ d + p)]

theorem le_add_mul (c : ℚ) (n : Nat) (hp : 0 < p) : c ≤ c + n * p :=
  le_add_of_nonneg_right (by positivity)

namespace Poller.Rounds

theorem counted (h : (lock.recordedPoller cache time).Rounds interval deadline n w v) :
    Counted n n w v := by
  induction h with
  | refl w => exact .refl w
  | snoc _ hs ih =>
    obtain ⟨adds, -, hcounted, hone⟩ := hs.counted
    obtain rfl := hone rfl
    cases hs with
    | slept => exact ih.trans hcounted

variable [Measured τ π] (hclock : Followed cache time lock clock interval deadline p c d)
  (hw : clock w.1 = c)

include hclock hw

/-- After some rounds the clock is at the deadline or later, or as far as the rounds last. -/
theorem min_le (hsleeps : Sleeps time clock p c d (· ≤ ·))
    (h : (lock.recordedPoller cache time).Rounds interval deadline n w v) :
    min (c + n * p) d ≤ clock v.1 := by
  induction h with
  | refl w => simp [hw]
  | @snoc n w u v nap _ hs ih =>
    have hu : min (c + n * p) d ≤ clock u.1 := ih hw
    have hcu : c ≤ clock u.1 := (le_min (le_add_mul c n hclock.pos) hclock.le).trans hu
    calc min (c + (n + 1 : ℕ) * p) d = min (min (c + n * p) d + p) d := by
          rw [min_min_add _ hclock.pos, Nat.cast_add_one]
          ring_nf
      _ ≤ min (clock u.1 + p) d := by gcongr
      _ ≤ clock v.1 := hs.sleeps hclock hcu hsleeps

theorem le (hsleeps : Sleeps time clock p c d (· ≤ ·))
    (h : (lock.recordedPoller cache time).Rounds interval deadline n w v) : c ≤ clock v.1 :=
  (le_min (le_add_mul c n hclock.pos) hclock.le).trans (h.min_le hclock hw hsleeps)

/-- A sleep after so many rounds is one more that begins before the deadline. -/
theorem lt_ceil (hsleeps : Sleeps time clock p c d (· ≤ ·))
    (h : (lock.recordedPoller cache time).Rounds interval deadline n w u)
    (hs : (lock.recordedPoller cache time).Stepped interval deadline u nap result v)
    (hnap : nap ≠ []) : n < ⌈(d - c) / p⌉₊ := by
  have hlt : min (c + n * p) d < d :=
    (h.min_le hclock hw hsleeps).trans_lt (hs.lt_of_nap hclock (h.le hclock hw hsleeps) hnap)
  have hearly : c + n * p < d := (min_lt_iff.1 hlt).resolve_right (lt_irrefl d)
  rw [Nat.lt_ceil, lt_div_iff₀ hclock.pos]
  linarith

/-- There are no more rounds than intervals that begin before the deadline. -/
theorem le_ceil (hsleeps : Sleeps time clock p c d (· ≤ ·))
    (h : (lock.recordedPoller cache time).Rounds interval deadline n w v) :
    n ≤ ⌈(d - c) / p⌉₊ := by
  cases h with
  | refl => exact Nat.zero_le _
  | snoc h hs => exact h.lt_ceil hclock hw hsleeps hs (by cases hs; simp)

/-- If sleeps last no longer than they are to, the clock is just as far as the rounds last. -/
theorem clock_eq (hsleeps : Sleeps time clock p c d (· = ·))
    (h : (lock.recordedPoller cache time).Rounds interval deadline n w v) :
    clock v.1 = min (c + n * p) d := by
  induction h with
  | refl w => simp [hw, hclock.le]
  | @snoc n w u v nap h hs ih =>
    have hcu : c ≤ clock u.1 := h.le hclock hw hsleeps.le
    rw [← hs.sleeps hclock hcu hsleeps, ih hw, min_min_add _ hclock.pos, Nat.cast_add_one]
    ring_nf

end Poller.Rounds

end Polls

end TimedLock.Lock
