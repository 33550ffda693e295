import TimedLock.Proofs.Lock.WaitBound

/-!
# Waits without an end

A wait for a cache mutex is over when no time is left until its deadline. If its timeout comes to
infinitely many seconds, or to what is no number, then there is time left at every reading of the
clock.

**Theorem (`ends_iff_hasEnd`).** Of the timeouts that are accepted, those of less than infinitely
many seconds have waits that end by themselves, if only the clock goes on. The others do not: with a
clock that goes on as far as a clock can, and a key that never comes free, no number of tries ends
the wait.

A wait that no number of tries ends uses up any patience (`goesOn_of_endless`), so that a wait either
ends or goes on for ever (`ends_or_goesOn`).
-/

namespace TimedLock.Lock

open Number

variable {σ : Type}

/-! ## Patience -/

/-- The same surroundings, where a wait polls so often at most. -/
def Surroundings.withPatience (env : Surroundings σ) (patience : Nat) : Surroundings σ :=
  { env with patience }

/-- A wait that no number of tries ends, so that it uses up any patience. -/
structure Cached.GoesOn [Journal σ] (env : Surroundings σ) (lock : Cached σ) (time : Value)
    (unit : TimeUnit) (s : σ) : Prop where
  endless : ∀ tries naps outcome t, ¬ lock.Ends env time unit s tries naps outcome t
  exhausts : ∀ patience, ∃ t, lock.acquire (env.withPatience patience) time unit s
    = (.error Problem.pollLimit.fault, t)

section Patience

variable [Journal σ] {env : Surroundings σ} {lock : Cached σ} {time : Value} {unit : TimeUnit}
  {s t : σ} {tries : Nat} {naps : List (σ × σ)} {outcome : Except Fault Bool}

/-- How a wait goes does not depend on how often it could have polled. -/
theorem Cached.Ends.withPatience (h : lock.Ends env time unit s tries naps outcome t)
    (patience : Nat) : lock.Ends (env.withPatience patience) time unit s tries naps outcome t := by
  cases h with
  | unstarted hn => exact .unstarted hn
  | unmeasured hn hs => exact .unmeasured hn hs
  | endless hn hs hd => exact .endless hn hs hd
  | polled hn hs hd hp => exact .polled hn hs hd hp

theorem goesOn_of_endless
    (h : ∀ tries naps outcome t, ¬ lock.Ends env time unit s tries naps outcome t) :
    lock.GoesOn env time unit s where
  endless := h
  exhausts patience := by
    obtain ⟨tries, naps, outcome, t, -, hends⟩ | hexhausted :=
      Cached.ends_or_exhausted (env.withPatience patience) lock time unit s
    · exact absurd (hends.withPatience env.patience) (h tries naps outcome t)
    · exact hexhausted

/-- A wait ends, or it goes on for ever. -/
theorem ends_or_goesOn (env : Surroundings σ) (lock : Cached σ) (time : Value) (unit : TimeUnit)
    (s : σ) :
    (∃ tries naps outcome t, lock.Ends env time unit s tries naps outcome t) ∨
      lock.GoesOn env time unit s := by
  by_cases h : ∃ tries naps outcome t, lock.Ends env time unit s tries naps outcome t
  · exact .inl h
  · refine .inr (goesOn_of_endless fun tries naps outcome t hends => ?_)
    exact h ⟨tries, naps, outcome, t, hends⟩

/-! ## Waits for a key that never comes free -/

variable {deadline : Float}

/-- Where time is left, no poll is the last. -/
theorem Starved.not_polled (h : Starved env lock)
    (hleft : ∀ now, Pace.isOver (Pace.left deadline now) = false) :
    ¬ (lock.poller env).Polled lock.pollInterval deadline tries s naps outcome t := by
  have goesOn {s t : σ} {nap : List (σ × σ)} {result : Except Fault (Option Bool)}
      (hs : (lock.poller env).Stepped lock.pollInterval deadline s nap result t) :
      result = .ok none := by
    obtain ⟨u, hu⟩ := h.step hleft s
    exact congrArg Prod.fst (hs.step_eq.symm.trans hu)
  intro hp
  induction hp with
  | ends hs => simpa using goesOn hs
  | fails hs => cases goesOn hs
  | again _ _ ih => exact ih

end Patience

/-! ## Timeouts that have an end -/

/-- The seconds of a time, if it has any, come before infinity. -/
def HasEnd (time : Value) (unit : TimeUnit) : Prop :=
  ∀ seconds, unit.toSeconds time = .ok seconds →
    seconds.before (.float (infinity false)) = .ok true

section Timeouts

variable {timeout time : Value} {unit : Option TimeUnit} {u : TimeUnit} {q : Quantity} {x : Float}

theorem before_infinity (x : Float) : (Value.float x).before (.float (infinity false))
    = .ok ((Quantity.ofFloat x).lt (.infinite false)) := rfl

/-- What comes before infinity is neither undefined nor infinite itself. -/
theorem lt_infinite_iff (q : Quantity) :
    q.lt (.infinite false) = true ↔ q.isDefined = true ∧ q ≠ .infinite false := by
  cases q with
  | undefined => simp [Quantity.lt, Quantity.isDefined]
  | finite q => simp [Quantity.lt, Quantity.isDefined]
  | infinite negative => cases negative <;> simp [Quantity.lt, Quantity.isDefined]

/-- What is accepted is a number. -/
theorem exists_number (h : Timeout.resolve timeout unit = .ok (time, u)) :
    ∃ q, time.quantity? = some q := by
  have haccept : ∃ v w, Timeout.accept v w = .ok (time, u) := by
    unfold Timeout.resolve at h
    split at h
    · cases h
    · exact ⟨_, _, h⟩
    · exact ⟨_, _, h⟩
  obtain ⟨v, w, haccept⟩ := haccept
  obtain ⟨rfl, -, -⟩ := Timeout.accept_eq_ok haccept
  unfold Timeout.accept Value.before at haccept
  cases hq : time.quantity? with
  | some q => exact ⟨q, rfl⟩
  | none =>
    rw [hq] at haccept
    cases haccept

/-- Until a deadline that is infinitely many seconds away, or an undefined amount, there is always time
left. -/
theorem isOver_of_not_before {start : Float} {c : ℚ} (hstart : Quantity.ofFloat start = .finite c)
    (h : (Quantity.ofFloat x).lt (.infinite false) = false) (now : Float) :
    Pace.isOver (Pace.left (start + x) now) = false := by
  cases hdefined : (Quantity.ofFloat x).isDefined with
  | false => exact isOver_of_undefined ((isDefined_add hstart).trans hdefined) now
  | true =>
    have hinfinite : Quantity.ofFloat x = .infinite false := by
      by_contra hne
      rw [(lt_infinite_iff _).2 ⟨hdefined, hne⟩] at h
      cases h
    exact not_sub_le_zero_of_infinite (ofFloat_add_infinite hstart hinfinite)

/-- The deadlines of a number of seconds that come before infinity expire. -/
theorem expires_of_hasEnd (hq : time.quantity? = some q) (h : HasEnd time u)
    {start deadline : Float} {c : ℚ} (hstart : Quantity.ofFloat start = .finite c)
    (hc : c < halfGap) (hd : Cached.deadlineOf time u start = .ok deadline) :
    Expires deadline := by
  refine expires_deadline hq (fun x hx => ?_) hstart hc hd
  have hbefore : (Quantity.ofFloat x).lt (.infinite false) = true :=
    Except.ok.inj ((before_infinity x).symm.trans (h _ hx))
  exact (lt_infinite_iff _).1 hbefore

/-- **A wait for a key that never comes free goes on for ever** if the seconds do not come before
infinity. -/
theorem Starved.goesOn [Journal σ] {env : Surroundings σ} {lock : Cached σ} (h : Starved env lock)
    (hseconds : u.toSeconds time = .ok (.float x))
    (hx : (Quantity.ofFloat x).lt (.infinite false) = false) (s : σ) :
    lock.GoesOn env time u s := by
  refine goesOn_of_endless fun tries naps outcome t hends => ?_
  obtain ⟨start, c, t', hnow, hstart⟩ := h.now s
  cases hends with
  | unstarted hn => cases hn.symm.trans hnow
  | unmeasured _ hs => cases hs.symm.trans hseconds
  | endless _ hs hd =>
    cases hs.symm.trans hseconds
    cases hd
  | polled hn hs hd hp =>
    cases hs.symm.trans hseconds
    cases hn.symm.trans hnow
    cases hd
    exact h.not_polled (isOver_of_not_before hstart hx) hp

end Timeouts

/-! ## A clock that goes on as far as a clock can -/

/-- A clock that was read before a sleep, or after it. -/
structure Eternity where
  slept : Bool

namespace Eternity

instance : Journal Eternity := ⟨fun _ eternity => eternity⟩

/-- What the clock reads: nothing at first, and after a sleep the largest number there is. -/
def clock (eternity : Eternity) : ℚ := if eternity.slept then largest else 0

/-- What the clock reads, as a double. -/
def reading (eternity : Eternity) : Float :=
  if eternity.slept then ofPattern false (patternLimit - 1) (by decide) else 0

/-- A cache where every key is taken. -/
def surroundings : Surroundings Eternity where
  add _ _ _ := pure (.bool false)
  get _ := pure .null
  delete _ := pure ()
  drawToken := pure "token"
  now := .look reading
  sleep _ := .change fun _ => ⟨true⟩
  patience := 1

/-- A mutex that is tried every second. -/
def mutex : Cached Eternity := ⟨.text "job", .int 60, .int 1, ⟨fun _ => none, fun _ w => w⟩⟩

/-- Before any sleep. -/
def start : Eternity := ⟨false⟩

theorem ofFloat_reading (eternity : Eternity) :
    Quantity.ofFloat eternity.reading = .finite eternity.clock := by
  apply Quantity.finite?_eq_some
  obtain ⟨slept⟩ := eternity
  cases slept <;> decide +kernel

theorem starved : Starved surroundings mutex where
  now eternity := ⟨_, _, eternity, rfl, ofFloat_reading eternity⟩
  drawToken eternity := ⟨"token", eternity, rfl⟩
  add _ eternity := ⟨.bool false, eternity, rfl, rfl⟩
  sleep _ _ := ⟨_, rfl⟩
  interval := ⟨_, rfl⟩

theorem advancing : Advancing surroundings mutex clock 1 where
  now eternity _ _ h := by
    cases h
    exact ⟨ofFloat_reading eternity, le_rfl⟩
  attempt _ := le_rfl
  sleep _ _ _ h := by
    cases h
    exact min_le_right _ _

theorem clock_start : clock start < halfGap := halfGap_pos

end Eternity

/-- **Which timeouts end a wait**: of those that are accepted, the ones of less than infinitely many
seconds. -/
theorem ends_iff_hasEnd {timeout time : Value} {unit : Option TimeUnit} {u : TimeUnit}
    (h : Timeout.resolve timeout unit = .ok (time, u)) :
    (∀ {σ : Type} [Journal σ] {env : Surroundings σ} {lock : Cached σ} {clock : σ → ℚ} {δ : ℚ},
      0 < δ → Advancing env lock clock δ → ∀ s, clock s < halfGap →
      ∃ tries naps outcome t, lock.Ends env time u s tries naps outcome t) ↔ HasEnd time u := by
  obtain ⟨q, hq⟩ := exists_number h
  constructor
  · intro hends seconds hseconds
    obtain ⟨x, rfl, -⟩ := isDefined_seconds hq hseconds
    rw [before_infinity, Except.ok.injEq, ← Bool.not_eq_false]
    intro hx
    obtain ⟨tries, naps, outcome, t, hend⟩ :=
      hends one_pos Eternity.advancing Eternity.start Eternity.clock_start
    exact (Eternity.starved.goesOn hseconds hx Eternity.start).endless _ _ _ _ hend
  · intro hend σ _ env lock clock δ hδ hclock s hs
    exact exists_ends (expires_of_hasEnd hq hend) hδ hclock s hs

end TimedLock.Lock
