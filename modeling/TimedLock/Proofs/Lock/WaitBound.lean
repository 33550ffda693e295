import Mathlib.Algebra.Order.Archimedean.Basic
import TimedLock.Proofs.Lock.WaitLength
import TimedLock.Proofs.Number.Overflow
import TimedLock.Timeout

/-!
# Which timeouts bound a wait

A number that is not below zero is accepted as a timeout, and the double that is no number is not
below zero. The wait for a cache mutex asks in another way whether it is over: whether what is left
until the deadline is at most zero, which what is undefined is not.

**Theorem (`bounds_iff`).** An accepted number, whose seconds are not infinite, bounds the wait just
if it is a number at all. It is then at least zero, its deadline expires, and a wait for it ends by
itself, if only the clock goes on. Otherwise nothing of this holds, and a wait for a key that never
comes free goes on for as long as there is patience.

The deadline is undefined just if the timeout is (`isDefined_seconds`, `isDefined_add`), and it is
not infinite by itself (`add_ne_infinite`). So it is a double that the clock can read, from which on
no time is left (`expires_iff`). The rounds of a wait begin before that reading, and every sleep
brings the clock nearer to it (`Poller.exists_polled`).
-/

namespace TimedLock.Lock

open Number

variable {σ : Type}

/-! ## Timeouts in seconds -/

theorem finite_nanos (u : TimeUnit) :
    Quantity.ofFloat (Float.ofNat u.nanos) = .finite (u.nanos : ℚ) := by
  apply Quantity.finite?_eq_some
  cases u <;> decide +kernel

/-- A rounded quotient is finite. -/
theorem exists_finite_of_quotient {num : Int} {den : Nat} {x : Float}
    (h : ofQuotient? num den = some x) : ∃ q, Quantity.ofFloat x = .finite q := by
  unfold ofQuotient? at h
  by_cases hp : nearestPattern num.natAbs den < patternLimit
  · simp only [hp, dite_true, Option.some.injEq] at h
    have hfield : nearestPattern num.natAbs den / fractions ≠ topField :=
      Nat.ne_of_lt ((Nat.div_lt_iff_lt_mul (by decide)).2 hp)
    rw [← h, Quantity.ofFloat, parts_ofPattern hp, partsOf, if_neg hfield]
    split <;> exact ⟨_, rfl⟩
  · simp [hp] at h

theorem wholeToSeconds_ok {u : TimeUnit} {n : Int} {v : Value}
    (h : Value.float <$> u.wholeToSeconds n = .ok v) :
    ∃ x q, v = .float x ∧ Quantity.ofFloat x = .finite q := by
  unfold TimeUnit.wholeToSeconds at h
  cases hx : ofQuotient? (n * u.nanos) TimeUnit.perSecond with
  | none =>
    rw [hx] at h
    cases h
  | some x =>
    rw [hx] at h
    cases h
    obtain ⟨q, hq⟩ := exists_finite_of_quotient hx
    exact ⟨x, q, rfl, hq⟩

/-- The seconds of a number are a double, which is undefined just if the number is. -/
theorem isDefined_seconds {time v : Value} {q : Quantity} {u : TimeUnit}
    (hq : time.quantity? = some q) (h : u.toSeconds time = .ok v) :
    ∃ x, v = .float x ∧ (Quantity.ofFloat x).isDefined = q.isDefined := by
  have ofWhole {n : Int} (h : Value.float <$> u.wholeToSeconds n = .ok v) :
      ∃ x, v = .float x ∧ (Quantity.ofFloat x).isDefined = true := by
    obtain ⟨x, q, hv, hx⟩ := wholeToSeconds_ok h
    exact ⟨x, hv, by rw [hx]; rfl⟩
  cases time with
  | bool b =>
    cases hq
    exact ofWhole h
  | int n =>
    cases hq
    exact ofWhole h
  | float y =>
    cases hq
    cases h
    refine ⟨_, rfl, ?_⟩
    have hunit : (u.nanos : ℚ) ≠ 0 := by exact_mod_cast u.nanos_pos.ne'
    have hsecond : (TimeUnit.seconds.nanos : ℚ) ≠ 0 := by
      exact_mod_cast TimeUnit.seconds.nanos_pos.ne'
    exact (isDefined_div (finite_nanos .seconds) hsecond).trans
      (isDefined_mul (finite_nanos u) hunit)
  | _ => cases hq

/-! ## Deadlines -/

/-- From some reading of the clock on, no time is left until the deadline. -/
def Expires (deadline : Float) : Prop :=
  ∃ last l, Quantity.ofFloat last = .finite l ∧ ∀ now c, Quantity.ofFloat now = .finite c → l ≤ c →
    Pace.isOver (Pace.left deadline now) = true

/-- Until an undefined deadline there is always time left. -/
theorem isOver_of_undefined {deadline : Float} (h : (Quantity.ofFloat deadline).isDefined = false)
    (now : Float) : Pace.isOver (Pace.left deadline now) = false := by
  show (Quantity.ofFloat (deadline - now)).le .zero = false
  have hleft : (Quantity.ofFloat (deadline - now)).isDefined = false := sub_of_undefined h
  cases hq : Quantity.ofFloat (deadline - now) with
  | undefined => rfl
  | finite q =>
    rw [hq] at hleft
    cases hleft
  | infinite negative =>
    rw [hq] at hleft
    cases hleft

/-- A deadline that does not lie at infinity expires just if it is defined. -/
theorem expires_iff {deadline : Float} (h : Quantity.ofFloat deadline ≠ .infinite false) :
    Expires deadline ↔ (Quantity.ofFloat deadline).isDefined = true := by
  constructor
  · rintro ⟨last, l, hlast, hover⟩
    by_contra hundefined
    have hleft := isOver_of_undefined (Bool.eq_false_iff.2 hundefined) last
    rw [hover last l hlast le_rfl] at hleft
    cases hleft
  · intro hdefined
    cases hq : Quantity.ofFloat deadline with
    | undefined =>
      rw [hq] at hdefined
      cases hdefined
    | finite d => exact ⟨deadline, d, hq, fun now c hc hle => sub_le_zero hq hc hle⟩
    | infinite negative =>
      cases negative with
      | false => exact absurd hq h
      | true =>
        exact ⟨zeroFloat, _, ofFloat_eq _, fun now c hc _ => sub_le_zero_of_infinite hq hc⟩

/-! ## Waits by a clock that goes on -/

/-- A clock that tells numbers, is not set back, and goes on with every sleep: by `δ` at least, or to
the largest number that it can tell. -/
structure Advancing [Journal σ] (env : Surroundings σ) (lock : Cached σ) (clock : σ → ℚ) (δ : ℚ) :
    Prop where
  now : ∀ s now t, env.now s = (.ok now, t) →
    Quantity.ofFloat now = .finite (clock s) ∧ clock s ≤ clock t
  attempt : ∀ s, clock s ≤ clock (lock.attempt env.toCacheService s).2
  sleep : ∀ pause s t, env.sleep pause s = (.ok (), t) → min (clock s + δ) largest ≤ clock t

section Waits

variable [Journal σ] {env : Surroundings σ} {lock : Cached σ} {clock : σ → ℚ} {δ l : ℚ}
  {deadline : Float} {s t : σ} {nap : List (σ × σ)}

/-- A poll that does not end the wait begins before the last reading, and the clock goes on in it. -/
theorem Poller.Stepped.advances (hclock : Advancing env lock clock δ)
    (hover : ∀ now c, Quantity.ofFloat now = .finite c → l ≤ c →
      Pace.isOver (Pace.left deadline now) = true)
    (h : (lock.poller env).Stepped lock.pollInterval deadline s nap (.ok none) t) :
    clock s < l ∧ min (clock s + δ) largest ≤ clock t := by
  cases h with
  | @slept s₁ s₂ _ now pause ha hn ho hp hs =>
    have htried : clock s ≤ clock s₁ := by
      have := hclock.attempt s
      rwa [show lock.attempt env.toCacheService s = (.ok false, s₁) from ha] at this
    obtain ⟨hnow, hread⟩ := hclock.now s₁ now s₂ hn
    have hslept := hclock.sleep pause s₂ t hs
    constructor
    · by_contra hle
      rw [hover now (clock s₁) hnow ((not_lt.1 hle).trans htried)] at ho
      cases ho
    · exact (min_le_min_right largest (by linarith)).trans hslept

/-- A wait that has at most `n` sleeps to go ends by itself. -/
theorem Poller.exists_polled (hδ : 0 < δ) (hclock : Advancing env lock clock δ)
    (hl : l ≤ largest) (hover : ∀ now c, Quantity.ofFloat now = .finite c → l ≤ c →
      Pace.isOver (Pace.left deadline now) = true) (n : ℕ) :
    ∀ s, l ≤ clock s + n * δ → ∃ tries naps outcome t,
      (lock.poller env).Polled lock.pollInterval deadline tries s naps outcome t := by
  induction n with
  | zero =>
    intro s hs
    obtain ⟨nap, result, t, hstep⟩ := exists_stepped (lock.poller env) lock.pollInterval deadline s
    rcases result with fault | _ | obtained
    · exact ⟨1, nap, _, t, .fails hstep⟩
    · have hlt := (hstep.advances hclock hover).1
      simp only [Nat.cast_zero, zero_mul, add_zero] at hs
      exact absurd hlt (not_lt.2 hs)
    · exact ⟨1, nap, _, t, .ends hstep⟩
  | succ n ih =>
    intro s hs
    obtain ⟨nap, result, t, hstep⟩ := exists_stepped (lock.poller env) lock.pollInterval deadline s
    rcases result with fault | _ | obtained
    · exact ⟨1, nap, _, t, .fails hstep⟩
    · obtain ⟨-, hlater⟩ := hstep.advances hclock hover
      have hrest : 0 ≤ n * δ := by positivity
      have ht : l ≤ clock t + n * δ := by
        push_cast at hs
        rcases min_le_iff.1 hlater with hgone | hlast <;> linarith
      obtain ⟨tries, naps, outcome, u, hp⟩ := ih t ht
      exact ⟨tries + 1, nap ++ naps, outcome, u, .again hstep hp⟩
    · exact ⟨1, nap, _, t, .ends hstep⟩

/-! ## Waits for a key that never comes free -/

/-- Surroundings that answer everything, where every try finds the key taken. -/
structure Starved (env : Surroundings σ) (lock : Cached σ) : Prop where
  now : ∀ s, ∃ now c t, env.now s = (.ok now, t) ∧ Quantity.ofFloat now = .finite c
  drawToken : ∀ s, ∃ token t, env.drawToken s = (.ok token, t)
  add : ∀ token s, ∃ v t, env.add lock.key token lock.expire s = (.ok v, t) ∧ v.isTruthy = false
  sleep : ∀ pause s, ∃ t, env.sleep pause s = (.ok (), t)
  interval : ∃ q, lock.pollInterval.quantity? = some q

theorem Starved.attempt (h : Starved env lock) (s : σ) :
    ∃ t, (lock.poller env).attempt s = (.ok false, t) := by
  obtain ⟨token, t, hd⟩ := h.drawToken s
  obtain ⟨v, u, ha, hv⟩ := h.add token t
  exact ⟨u, attempt_of_falsy hd ha hv⟩

/-- Where time is left, such a wait goes on. -/
theorem Starved.step (h : Starved env lock)
    (hleft : ∀ now, Pace.isOver (Pace.left deadline now) = false) (s : σ) :
    ∃ t, (lock.poller env).step lock.pollInterval deadline s = (.ok none, t) := by
  obtain ⟨t, ha⟩ := h.attempt s
  obtain ⟨now, -, u, hn, -⟩ := h.now t
  obtain ⟨q, hq⟩ := h.interval
  have hbefore : (Value.float (Pace.left deadline now)).before lock.pollInterval
      = .ok ((Quantity.ofFloat (Pace.left deadline now)).lt q) := by
    unfold Value.before
    rw [hq]
    rfl
  obtain ⟨v, hs⟩ := h.sleep _ u
  have hstep : (lock.poller env).Stepped lock.pollInterval deadline s [(u, v)] (.ok none) v :=
    .slept ha hn (hleft now) (pause_eq_of_before hbefore) hs
  exact ⟨v, hstep.step_eq⟩

/-- It uses up any bound. -/
theorem Starved.run (h : Starved env lock)
    (hleft : ∀ now, Pace.isOver (Pace.left deadline now) = false) (bound : ℕ) :
    ∀ s, ∃ t, (lock.poller env).run lock.pollInterval deadline bound s
      = (.error Problem.pollLimit.fault, t) := by
  induction bound with
  | zero => exact fun s => ⟨s, rfl⟩
  | succ bound ih =>
    intro s
    obtain ⟨t, hstep⟩ := h.step hleft s
    obtain ⟨u, hrun⟩ := ih t
    exact ⟨u, (Run.bind_ok _ hstep).trans hrun⟩

end Waits

/-! ## Timeouts -/

/-- A time, in a unit, that bounds the wait for a cache mutex: it is at least zero, its deadlines
expire, and the waits for it end by themselves. Clocks read less than `2 ^ 970` seconds. -/
structure Bounds (time : Value) (unit : TimeUnit) : Prop where
  notNegative : (Value.int 0).atMost time = .ok true
  expires : ∀ {start deadline : Float} {c : ℚ}, Quantity.ofFloat start = .finite c → c < halfGap →
    Cached.deadlineOf time unit start = .ok deadline → Expires deadline
  ends : ∀ {σ : Type} [Journal σ] {env : Surroundings σ} {lock : Cached σ} {clock : σ → ℚ} {δ : ℚ},
    0 < δ → Advancing env lock clock δ → ∀ s, clock s < halfGap →
    ∃ tries naps outcome t, lock.Ends env time unit s tries naps outcome t

/-- A time that bounds nothing: it is in no order with zero, after every reading of the clock time is
left, and a wait for a key that never comes free uses up any patience. -/
structure BoundsNothing (time : Value) (unit : TimeUnit) : Prop where
  unordered : (Value.int 0).atMost time = .ok false
  remains : ∀ {start deadline : Float} {c : ℚ}, Quantity.ofFloat start = .finite c →
    Cached.deadlineOf time unit start = .ok deadline →
    ∀ now, Pace.isOver (Pace.left deadline now) = false
  goesOn : ∀ {σ : Type} [Journal σ] {env : Surroundings σ} {lock : Cached σ}, Starved env lock →
    ∀ s, ∃ t, lock.acquire env time unit s = (.error Problem.pollLimit.fault, t)

section Timeouts

variable {timeout time : Value} {unit : Option TimeUnit} {u : TimeUnit} {q : Quantity}

/-- A number that is accepted is the time to wait for, and is not below zero. -/
theorem accepted_number (hq : timeout.quantity? = some q)
    (h : Timeout.resolve timeout unit = .ok (time, u)) :
    time.quantity? = some q ∧ q.lt .zero = false := by
  have haccept : Timeout.accept timeout (unit.getD .seconds) = .ok (time, u) := by
    cases timeout with
    | duration micros => cases hq
    | _ => exact h
  obtain ⟨rfl, -, -⟩ := Timeout.accept_eq_ok haccept
  refine ⟨hq, ?_⟩
  rw [Timeout.accept_of_quantity hq] at haccept
  cases hlt : q.lt .zero with
  | false => rfl
  | true =>
    rw [hlt] at haccept
    cases haccept

theorem atMost_eq (hq : time.quantity? = some q) :
    (Value.int 0).atMost time = .ok (Quantity.zero.le q) := by
  unfold Value.atMost
  rw [hq]
  rfl

/-- The deadline of a number is undefined just if the number is. -/
theorem isDefined_deadline (hq : time.quantity? = some q) {start deadline : Float} {c : ℚ}
    (hstart : Quantity.ofFloat start = .finite c)
    (hd : Cached.deadlineOf time u start = .ok deadline) :
    (Quantity.ofFloat deadline).isDefined = q.isDefined := by
  obtain ⟨v, hv, hdeadline⟩ := Cached.deadlineOf_ok hd
  obtain ⟨x, rfl, hx⟩ := isDefined_seconds hq hv
  cases hdeadline
  exact (isDefined_add hstart).trans hx

/-- The deadlines of a number expire if its seconds are neither undefined nor infinite. -/
theorem expires_deadline (hq : time.quantity? = some q)
    (hseconds : ∀ x, u.toSeconds time = .ok (.float x) →
      (Quantity.ofFloat x).isDefined = true ∧ Quantity.ofFloat x ≠ .infinite false)
    {start deadline : Float} {c : ℚ} (hstart : Quantity.ofFloat start = .finite c)
    (hc : c < halfGap) (hd : Cached.deadlineOf time u start = .ok deadline) :
    Expires deadline := by
  obtain ⟨v, hv, hsum⟩ := Cached.deadlineOf_ok hd
  obtain ⟨x, rfl, -⟩ := isDefined_seconds hq hv
  obtain ⟨hdefined, hfinite⟩ := hseconds x hv
  cases hsum
  exact (expires_iff (add_ne_infinite hstart hc hfinite)).2 ((isDefined_add hstart).trans hdefined)

/-- A wait whose deadlines expire ends by itself. -/
theorem exists_ends {σ : Type} [Journal σ] {env : Surroundings σ} {lock : Cached σ} {clock : σ → ℚ}
    {δ : ℚ}
    (hexpires : ∀ {start deadline : Float} {c : ℚ}, Quantity.ofFloat start = .finite c →
      c < halfGap → Cached.deadlineOf time u start = .ok deadline → Expires deadline)
    (hδ : 0 < δ) (hclock : Advancing env lock clock δ) (s : σ) (hs : clock s < halfGap) :
    ∃ tries naps outcome t, lock.Ends env time u s tries naps outcome t := by
  rcases hn : env.now s with ⟨fault | start, t⟩
  · exact ⟨_, _, _, _, .unstarted hn⟩
  obtain ⟨hstart, -⟩ := hclock.now s start t hn
  cases hv : u.toSeconds time with
  | error fault => exact ⟨_, _, _, _, .unmeasured hn hv⟩
  | ok seconds =>
    cases hd : seconds.addedTo start with
    | error fault => exact ⟨_, _, _, _, .endless hn hv hd⟩
    | ok deadline =>
      have hdeadline : Cached.deadlineOf time u start = .ok deadline := by
        unfold Cached.deadlineOf
        rw [hv]
        exact hd
      obtain ⟨last, l, hlast, hover⟩ := hexpires hstart hs hdeadline
      obtain ⟨n, hle⟩ := Archimedean.arch (l - clock t) hδ
      rw [nsmul_eq_mul] at hle
      obtain ⟨tries, naps, outcome, u, hp⟩ :=
        Poller.exists_polled hδ hclock (le_largest hlast) hover n t (by linarith)
      exact ⟨tries, naps, outcome, u, .polled hn hv hd hp⟩

variable (hq : time.quantity? = some q)

include hq

/-- **A number that is not below zero, and whose seconds are not infinite, bounds the wait.** -/
theorem bounds_of_defined (hzero : q.lt .zero = false) (hdefined : q.isDefined = true)
    (hfinite : ∀ x, u.toSeconds time = .ok (.float x) → Quantity.ofFloat x ≠ .infinite false) :
    Bounds time u := by
  have hseconds (x : Float) (hx : u.toSeconds time = .ok (.float x)) :
      (Quantity.ofFloat x).isDefined = true ∧ Quantity.ofFloat x ≠ .infinite false := by
    obtain ⟨y, hy, hsame⟩ := isDefined_seconds hq hx
    cases hy
    exact ⟨hsame.trans hdefined, hfinite x hx⟩
  refine {
    notNegative := ?_
    expires := expires_deadline hq hseconds
    ends := exists_ends (expires_deadline hq hseconds) }
  rw [atMost_eq hq, (Quantity.not_lt_iff_le rfl hdefined).1 hzero]

/-- **What is no number bounds nothing.** -/
theorem boundsNothing_of_undefined (hundefined : q.isDefined = false)
    (hseconds : ∃ x, u.toSeconds time = .ok (.float x)) : BoundsNothing time u := by
  have hremains {start deadline : Float} {c : ℚ} (hstart : Quantity.ofFloat start = .finite c)
      (hd : Cached.deadlineOf time u start = .ok deadline) :
      ∀ now, Pace.isOver (Pace.left deadline now) = false :=
    isOver_of_undefined ((isDefined_deadline hq hstart hd).trans hundefined)
  refine {
    unordered := ?_
    remains := hremains
    goesOn := ?_ }
  · rw [atMost_eq hq]
    cases q with
    | undefined => rfl
    | finite _ => cases hundefined
    | infinite _ => cases hundefined
  · intro σ _ env lock h s
    obtain ⟨start, c, t, hn, hstart⟩ := h.now s
    obtain ⟨x, hx⟩ := hseconds
    have hd : Cached.deadlineOf time u start = .ok (start + x) := by
      unfold Cached.deadlineOf
      rw [hx]
      rfl
    obtain ⟨v, hrun⟩ := h.run (hremains hstart hd) env.patience t
    refine ⟨v, ?_⟩
    unfold Cached.acquire
    rw [Run.bind_ok _ hn, hx, Run.ofExcept_ok_bind,
      show (Value.float x).addedTo start = .ok (start + x) from rfl, Run.ofExcept_ok_bind]
    exact Run.bind_error _ hrun

end Timeouts

/-- **Which timeouts bound a wait**: of the numbers that are accepted, and whose seconds are not
infinite, all but the one that is no number. -/
theorem bounds_iff {timeout time : Value} {unit : Option TimeUnit} {u : TimeUnit} {q : Quantity}
    (hq : timeout.quantity? = some q) (h : Timeout.resolve timeout unit = .ok (time, u))
    (hfinite : ∀ x, u.toSeconds time = .ok (.float x) → Quantity.ofFloat x ≠ .infinite false) :
    (Bounds time u ↔ q ≠ .undefined) ∧ (BoundsNothing time u ↔ q = .undefined) := by
  obtain ⟨htime, hzero⟩ := accepted_number hq h
  have hbounds (hdefined : q ≠ .undefined) : Bounds time u := by
    refine bounds_of_defined htime hzero ?_ hfinite
    cases q with
    | undefined => exact absurd rfl hdefined
    | finite _ => rfl
    | infinite _ => rfl
  have hnothing (hundefined : q = .undefined) : BoundsNothing time u := by
    subst hundefined
    refine boundsNothing_of_undefined htime rfl ?_
    cases time with
    | float x => exact ⟨_, rfl⟩
    | bool b => cases htime
    | int n => cases htime
    | _ => cases htime
  have apart (hb : Bounds time u) (hn : BoundsNothing time u) : False := by
    have := hb.notNegative.symm.trans hn.unordered
    simp at this
  exact ⟨⟨fun hb hundefined => apart hb (hnothing hundefined), hbounds⟩,
    ⟨fun hn => by_contra fun hdefined => apart (hbounds hdefined) hn, hnothing⟩⟩

/-- Five minutes bound a wait. -/
theorem bounds_five_minutes : Bounds (.int 5) .minutes := by
  have hq : (Value.int 5).quantity? = some (.finite 5) := rfl
  have hresolve : Timeout.resolve (.int 5) (some .minutes) = .ok (.int 5, .minutes) := rfl
  refine (bounds_iff hq hresolve fun x hx => ?_).1.2 (by simp)
  obtain ⟨y, q, hy, hfinite⟩ := wholeToSeconds_ok (u := .minutes) (n := 5) hx
  obtain rfl : x = y := by simpa using hy
  rw [hfinite]
  simp

/-! ### The double that is no number -/

theorem Dial.starved : Starved Dial.surroundings Dial.mutex where
  now dial := ⟨dial.reading, dial.clock, dial, rfl, Quantity.finite?_eq_some dial.value_reading⟩
  drawToken dial := ⟨"token", dial, rfl⟩
  add _ dial := ⟨.bool false, dial, rfl, rfl⟩
  sleep _ _ := ⟨_, rfl⟩
  interval := ⟨_, rfl⟩

/-- The double that is no number is accepted, and bounds nothing: a wait for a key that is taken uses
up its patience, whenever it starts. -/
theorem not_bounds_of_undefined :
    let nan := Value.float undefinedFloat
    Timeout.resolve nan none = .ok (nan, .seconds) ∧
      (∀ x, TimeUnit.seconds.toSeconds nan = .ok (.float x) →
        Quantity.ofFloat x ≠ .infinite false) ∧
      ¬ Bounds nan .seconds ∧ BoundsNothing nan .seconds ∧
      ∀ dial, ∃ t, Dial.mutex.acquire Dial.surroundings nan .seconds dial
        = (.error Problem.pollLimit.fault, t) := by
  intro nan
  have hq : nan.quantity? = some .undefined := rfl
  have hnothing : BoundsNothing nan .seconds := boundsNothing_of_undefined hq rfl ⟨_, rfl⟩
  refine ⟨rfl, fun x hx hinfinite => ?_, fun hbounds => ?_, hnothing, hnothing.goesOn Dial.starved⟩
  · obtain ⟨y, hy, hundefined⟩ := isDefined_seconds hq hx
    obtain rfl : x = y := by simpa using hy
    rw [hinfinite] at hundefined
    cases hundefined
  · have := hbounds.notNegative.symm.trans hnothing.unordered
    simp at this

end TimedLock.Lock
