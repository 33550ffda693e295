import TimedLock.Proofs.Number.Rounding
import TimedLock.Timeout

/-!
# Waits for whole amounts of time

A lock on a coordination service is asked to wait in seconds, which are a double. A whole amount of
a unit is a whole number of nanoseconds, which is divided and rounded once.

**Theorem (`whole_wait`).** As long as its seconds do not overflow, a whole amount is waited for just
if it is not zero, and then for more than zero seconds, which are its own but for a relative error
of `2 ^ -53`. The same length in another unit gives the same wait, and no length gives a longer wait
than a greater one.

The wait depends on the nanoseconds alone (`Wait.ofTime_int`). The pattern of their seconds grows
with them (`secondsPattern_mono`), and that of one nanosecond is not zero (`secondsPattern_eq_zero`)
but that of a normal double (`abs_magnitude_secondsPattern_sub_le`). The seconds overflow where the
exact quotient is too close to `2 ^ 1024` (`toSeconds_isOk_iff`).
-/

namespace TimedLock

open Number

/-! ## Seconds of nanoseconds -/

/-- The pattern of the seconds that a number of nanoseconds is rounded to. -/
def secondsPattern (nanos : Nat) : Nat := nearestPattern nanos TimeUnit.perSecond

theorem secondsPattern_mono : Monotone secondsPattern := by
  intro shorter longer h
  have hsecond : 0 < TimeUnit.perSecond := by decide
  have hcast : (shorter : ℚ) ≤ longer := by exact_mod_cast h
  exact nearestPattern_mono hsecond hsecond (by gcongr)

/-- No time but none at all is rounded to zero seconds, since a nanosecond is not. -/
theorem secondsPattern_eq_zero {nanos : Nat} : secondsPattern nanos = 0 ↔ nanos = 0 := by
  refine ⟨fun h => ?_, fun h => by rw [h]; rfl⟩
  by_contra hne
  have hone : 0 < secondsPattern 1 := by decide +kernel
  have hmono := secondsPattern_mono (Nat.one_le_iff_ne_zero.2 hne)
  omega

/-- Whole nanoseconds are far from the least doubles, so that their seconds are as exact as any. -/
theorem abs_magnitude_secondsPattern_sub_le {nanos : Nat} (hpos : nanos ≠ 0) :
    |magnitude (secondsPattern nanos) - nanos / TimeUnit.perSecond|
      ≤ nanos / TimeUnit.perSecond / 2 ^ 53 := by
  have hone : (1 : ℚ) ≤ nanos := by exact_mod_cast Nat.one_le_iff_ne_zero.2 hpos
  refine abs_magnitude_sub_le_div (by decide) ?_
  calc (2 : ℚ) ^ (-1022 : Int) ≤ 2 ^ (-30 : Int) := zpow_le_zpow_right₀ one_le_two (by decide)
    _ ≤ 1 / TimeUnit.perSecond := by norm_num [TimeUnit.perSecond, TimeUnit.nanos]
    _ ≤ nanos / TimeUnit.perSecond := by gcongr

namespace TimeUnit

variable {n : Nat} {u : TimeUnit}

theorem toSeconds_of_lt (h : secondsPattern (n * u.nanos) < patternLimit) :
    u.toSeconds (.int n) = .ok (.float (ofPattern false _ h)) := by
  have hquotient : ofQuotient? (n * u.nanos) perSecond = some (ofPattern false _ h) := by
    rw [← Int.natCast_mul, ofQuotient?_natCast]
    exact dif_pos h
  show Value.float <$> u.wholeToSeconds n = _
  rw [wholeToSeconds, hquotient]
  rfl

theorem toSeconds_of_not_lt (h : ¬ secondsPattern (n * u.nanos) < patternLimit) :
    u.toSeconds (.int n) = .error Problem.quotientTooLarge.fault := by
  have hquotient : ofQuotient? (n * u.nanos) perSecond = none := by
    rw [← Int.natCast_mul, ofQuotient?_natCast]
    exact dif_neg h
  show Value.float <$> u.wholeToSeconds n = _
  rw [wholeToSeconds, hquotient]
  rfl

/-- A whole amount has seconds just if its pattern is that of a finite double. -/
theorem toSeconds_eq_ok_iff {seconds : Value} :
    u.toSeconds (.int n) = .ok seconds ↔
      ∃ h : secondsPattern (n * u.nanos) < patternLimit, seconds = .float (ofPattern false _ h) := by
  by_cases h : secondsPattern (n * u.nanos) < patternLimit
  · rw [toSeconds_of_lt h, Except.ok.injEq, eq_comm]
    exact ⟨fun hseconds => ⟨h, hseconds⟩, fun ⟨_, hseconds⟩ => hseconds⟩
  · rw [toSeconds_of_not_lt h]
    exact ⟨nofun, fun ⟨hlt, _⟩ => absurd hlt h⟩

/-- The seconds of a whole amount overflow exactly from halfway between the largest finite double
and the next power of two on. -/
theorem toSeconds_isOk_iff :
    (∃ seconds, u.toSeconds (.int n) = .ok seconds) ↔
      ((n * u.nanos : Nat) : ℚ) / perSecond < (2 ^ 54 - 1) * halfGap := by
  rw [← nearestPattern_lt_iff (by decide)]
  simp only [toSeconds_eq_ok_iff]
  exact ⟨fun ⟨_, h, _⟩ => h, fun h => ⟨_, h, rfl⟩⟩

end TimeUnit

/-! ## Waits -/

namespace Wait

/-- The wait for a whole number of nanoseconds. -/
def ofNanos (nanos : Nat) : Except Fault Wait :=
  if h : secondsPattern nanos < patternLimit then
    .ok (if nanos = 0 then .immediate else .upTo (.float (ofPattern false _ h)))
  else .error Problem.quotientTooLarge.fault

/-- How long a wait may take: no time at all if the lock is tried once. -/
def limit : Wait → Quantity
  | .immediate => .zero
  | .upTo seconds => seconds.quantity?.getD .undefined

variable {n nanos : Nat} {u : TimeUnit}

/-- A time is waited for unless its seconds are zero or less. -/
theorem ofTime_of_seconds {time seconds : Value} {none : Bool}
    (h : u.toSeconds time = .ok seconds) (hnone : seconds.atMost (.int 0) = .ok none) :
    ofTime time u = .ok (if none then .immediate else .upTo seconds) := by
  unfold ofTime
  rw [h]
  show (do if ← seconds.atMost (.int 0) then Except.ok immediate else .ok (.upTo seconds)) = _
  rw [hnone]
  cases none <;> rfl

/-- A double that is not negative is above zero unless its pattern is zero. -/
theorem atMost_zero {pattern : Nat} (h : pattern < patternLimit) :
    (Value.float (ofPattern false pattern h)).atMost (.int 0) = .ok (decide (pattern = 0)) := by
  have hcompared : (Value.float (ofPattern false pattern h)).atMost (.int 0)
      = .ok ((Quantity.ofFloat (ofPattern false pattern h)).le (.finite 0)) := rfl
  have hzero : magnitude pattern ≤ 0 ↔ pattern = 0 := by
    rw [← not_lt, magnitude_pos_iff, Nat.pos_iff_ne_zero, not_not]
  rw [hcompared, ofFloat_ofPattern, Quantity.le, decide_eq_decide.2 hzero]

/-- The wait for a whole amount depends on its length in nanoseconds alone. -/
theorem ofTime_int (n : Nat) (u : TimeUnit) : ofTime (.int n) u = ofNanos (n * u.nanos) := by
  unfold ofNanos
  by_cases h : secondsPattern (n * u.nanos) < patternLimit
  · rw [dif_pos h, ofTime_of_seconds (TimeUnit.toSeconds_of_lt h) (atMost_zero h)]
    simp only [decide_eq_true_eq, secondsPattern_eq_zero]
  · rw [dif_neg h]
    unfold ofTime
    rw [TimeUnit.toSeconds_of_not_lt h]
    rfl

/-- What is waited for is limited by what its seconds stand for, also where they are zero. -/
theorem exists_ofNanos (h : secondsPattern nanos < patternLimit) :
    ∃ wait, ofNanos nanos = .ok wait ∧ wait.limit = .finite (magnitude (secondsPattern nanos)) := by
  refine ⟨_, dif_pos h, ?_⟩
  split_ifs with hzero
  · have hnone : magnitude (secondsPattern nanos) = 0 := by
      rw [hzero]
      decide +kernel
    rw [hnone]
    rfl
  · exact ofFloat_ofPattern h

/-- A length that is not zero is waited for, for more than zero seconds. -/
theorem ofNanos_pos (hpos : nanos ≠ 0) (h : secondsPattern nanos < patternLimit) :
    ofNanos nanos = .ok (.upTo (.float (ofPattern false _ h))) ∧
      0 < magnitude (secondsPattern nanos) := by
  refine ⟨?_, ?_⟩
  · rw [ofNanos, dif_pos h, if_neg hpos]
  · rw [magnitude_pos_iff, Nat.pos_iff_ne_zero, Ne, secondsPattern_eq_zero]
    exact hpos

/-- **Waits for whole amounts of time.** -/
theorem whole_wait {seconds : Value} (h : u.toSeconds (.int n) = .ok seconds) :
    (ofTime (.int n) u = .ok .immediate ↔ n = 0) ∧
    (n ≠ 0 → ofTime (.int n) u = .ok (.upTo seconds) ∧
      ∃ x q, seconds = .float x ∧ Quantity.ofFloat x = .finite q ∧ 0 < q ∧
        |q - (n * u.nanos : Nat) / TimeUnit.perSecond|
          ≤ (n * u.nanos : Nat) / TimeUnit.perSecond / 2 ^ 53) ∧
    (∀ (m : Nat) (v : TimeUnit), m * v.nanos = n * u.nanos →
      ofTime (.int m) v = ofTime (.int n) u) ∧
    ∀ (m : Nat) (v : TimeUnit), m * v.nanos ≤ n * u.nanos → ∃ shorter longer,
      ofTime (.int m) v = .ok shorter ∧ ofTime (.int n) u = .ok longer ∧
        shorter.limit.le longer.limit = true := by
  obtain ⟨hfits, rfl⟩ := TimeUnit.toSeconds_eq_ok_iff.1 h
  have hlength : n * u.nanos = 0 ↔ n = 0 := by
    rw [Nat.mul_eq_zero, or_iff_left u.nanos_pos.ne']
  simp only [ofTime_int]
  refine ⟨⟨fun himmediate => ?_, fun hn => ?_⟩, fun hn => ?_, fun m v hsame => by rw [hsame],
    fun m v hle => ?_⟩
  · by_contra hn
    have hwait := (ofNanos_pos (mt hlength.1 hn) hfits).1
    rw [himmediate] at hwait
    cases hwait
  · rw [ofNanos, dif_pos hfits, if_pos (hlength.2 hn)]
  · obtain ⟨hwait, hpos⟩ := ofNanos_pos (mt hlength.1 hn) hfits
    exact ⟨hwait, _, _, rfl, ofFloat_ofPattern hfits, hpos,
      abs_magnitude_secondsPattern_sub_le (mt hlength.1 hn)⟩
  · have hpattern := secondsPattern_mono hle
    obtain ⟨shorter, hshorter, hlow⟩ := exists_ofNanos (hpattern.trans_lt hfits)
    obtain ⟨longer, hlonger, hhigh⟩ := exists_ofNanos hfits
    refine ⟨shorter, longer, hshorter, hlonger, ?_⟩
    rw [hlow, hhigh, Quantity.le, decide_eq_true_eq]
    exact magnitude_mono hpattern

/-- Two minutes are waited for as a hundred and twenty seconds are, and one nanosecond is waited for
too, but for no longer. -/
theorem two_minutes_wait :
    let seconds := fun (n : Nat) (u : TimeUnit) => u.toSeconds (.int n)
    (∃ v, seconds 2 .minutes = .ok v ∧ ofTime (.int (2 : Nat)) .minutes = .ok (.upTo v)) ∧
    (∃ v, seconds 1 .nanoseconds = .ok v ∧ ofTime (.int (1 : Nat)) .nanoseconds = .ok (.upTo v)) ∧
    ofTime (.int (120 : Nat)) .seconds = ofTime (.int (2 : Nat)) .minutes ∧
    ∃ shorter longer, ofTime (.int (1 : Nat)) .nanoseconds = .ok shorter ∧
      ofTime (.int (2 : Nat)) .minutes = .ok longer ∧ shorter.limit.le longer.limit = true := by
  intro seconds
  have hminutes : seconds 2 .minutes = .ok _ := TimeUnit.toSeconds_of_lt (by decide +kernel)
  have hnano : seconds 1 .nanoseconds = .ok _ := TimeUnit.toSeconds_of_lt (by decide +kernel)
  obtain ⟨-, hwait, hsame, hlonger⟩ := whole_wait hminutes
  have hwait' := (whole_wait hnano).2.1
  exact ⟨⟨_, hminutes, (hwait (by decide)).1⟩, ⟨_, hnano, (hwait' (by decide)).1⟩,
    hsame 120 .seconds (by decide), hlonger 1 .nanoseconds (by decide)⟩

end Wait

end TimedLock
