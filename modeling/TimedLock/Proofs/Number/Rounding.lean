import Mathlib.Data.Int.Log
import TimedLock.Number.Rounding
import TimedLock.Proofs.Number.Overflow

/-!
# Order and errors of rounding

A quotient is rounded to a whole number of units of its last place, which are a power of two.

**Theorem (`nearestPattern_mono`).** A larger quotient has no smaller pattern.

**Theorem (`magnitude_mono`).** A double with a larger pattern is no smaller, and only the pattern
zero is that of zero (`magnitude_pos_iff`).

**Theorem (`abs_magnitude_sub_le_div`).** A quotient that is not below `2 ^ -1022` is rounded with a
relative error of at most `2 ^ -53`.

The last place grows with the quotient (`lastPlace_mono`). Two quotients with one last place compare
as the whole numbers that are nearest to them do (`IsNearest.mono`), and if the last places differ,
then the smaller quotient has at most `2 ^ 53` units and the larger one has `2 ^ 52` units at least,
each of which is twice as large or more.
-/

namespace TimedLock.Number

/-! ## Nearest whole numbers -/

/-- No whole number is nearer to `q` than `m`, which is even if another one is as near. -/
structure IsNearest (q : ℚ) (m : Nat) : Prop where
  le_add_half : q ≤ m + 1 / 2
  sub_half_le : m - 1 / 2 ≤ q
  even : q = m + 1 / 2 ∨ q = m - 1 / 2 → m % 2 = 0

namespace IsNearest

variable {p q : ℚ} {m n : Nat}

theorem natCast (m : Nat) : IsNearest m m where
  le_add_half := by linarith
  sub_half_le := by linarith
  even h := by rcases h with h | h <;> linarith

/-- What is nearest keeps the order: a quotient halfway between two whole numbers cannot be rounded
to both, since only one of them is even. -/
theorem mono (hp : IsNearest p m) (hq : IsNearest q n) (h : p ≤ q) : m ≤ n := by
  by_contra! hlt
  have hcast : (n + 1 : ℚ) ≤ m := by exact_mod_cast hlt
  have hlow := hp.sub_half_le
  have hhigh := hq.le_add_half
  have hm : m % 2 = 0 := hp.even (.inr (by linarith))
  have hn : n % 2 = 0 := hq.even (.inl (by linarith))
  have hnext : m = n + 1 := by
    have : (m : ℚ) ≤ n + 1 := by linarith
    have : m ≤ n + 1 := by exact_mod_cast this
    omega
  omega

end IsNearest

theorem isNearest_roundHalfEven (num : Nat) {den : Nat} (hden : 0 < den) :
    IsNearest (num / den) (roundHalfEven num den) := by
  have hpos : (0 : ℚ) < den := by exact_mod_cast hden
  -- the part of the quotient behind the point, which decides
  obtain ⟨part, hpart⟩ : ∃ part : ℚ, part = (num % den : Nat) / den := ⟨_, rfl⟩
  have hquotient : (num : ℚ) / den = (num / den : Nat) + part := by
    rw [hpart, ← mul_right_inj' hpos.ne', mul_add, mul_div_cancel₀ _ hpos.ne',
      mul_div_cancel₀ _ hpos.ne']
    exact_mod_cast (Nat.div_add_mod num den).symm
  have hnonneg : 0 ≤ part := hpart ▸ by positivity
  have hlow : 2 * (num % den) < den ↔ part < 1 / 2 := by
    rw [hpart, div_lt_iff₀ hpos, ← Nat.cast_lt (α := ℚ)]
    push_cast
    constructor <;> intro h <;> linarith
  have hhigh : den < 2 * (num % den) ↔ 1 / 2 < part := by
    rw [hpart, lt_div_iff₀ hpos, ← Nat.cast_lt (α := ℚ)]
    push_cast
    constructor <;> intro h <;> linarith
  have hone : part < 1 := by
    rw [hpart, div_lt_one hpos]
    exact_mod_cast Nat.mod_lt num hden
  have hrounded : roundHalfEven num den
      = if part < 1 / 2 then num / den
        else if 1 / 2 < part then num / den + 1
        else num / den + num / den % 2 :=
    if_congr hlow rfl (if_congr hhigh rfl rfl)
  rw [hquotient, hrounded]
  generalize num / den = whole
  split_ifs with hbelow habove
  · exact ⟨by linarith, by linarith, by rintro (h | h) <;> linarith⟩
  · have hnext : ((whole + 1 : Nat) : ℚ) = whole + 1 := Nat.cast_succ whole
    exact ⟨by linarith, by linarith, by rintro (h | h) <;> linarith⟩
  · have hhalf : part = 1 / 2 := le_antisymm (not_lt.1 habove) (not_lt.1 hbelow)
    rcases Nat.mod_two_eq_zero_or_one whole with heven | hodd
    · rw [heven]
      exact ⟨by push_cast; linarith, by push_cast; linarith, fun _ => heven⟩
    · rw [hodd]
      exact ⟨by push_cast; linarith, by push_cast; linarith, fun _ => by omega⟩

/-! ## Last places -/

/-- The exponent of the last place that a double has for `q`. -/
def lastPlace (q : ℚ) : Int := max (Int.log 2 q - 52) (-1074)

theorem lastPlace_mono {p q : ℚ} (hp : 0 < p) (h : p ≤ q) : lastPlace p ≤ lastPlace q :=
  max_le_max (Int.sub_le_sub_right (Int.log_mono_right hp h) 52) le_rfl

section Quotients

variable {num den : Nat}

/-- Whole numbers say whether a quotient reaches a power of two. -/
theorem reaches_iff (num : Nat) (hden : 0 < den) (k : Int) :
    (if 0 ≤ k then den * twoTo k.toNat ≤ num else den ≤ num * twoTo (-k).toNat) ↔
      (2 : ℚ) ^ k ≤ num / den := by
  have hpos : (0 : ℚ) < den := by exact_mod_cast hden
  rw [le_div_iff₀ hpos]
  split_ifs with hk
  · obtain ⟨j, rfl⟩ := Int.eq_ofNat_of_zero_le hk
    rw [zpow_natCast, mul_comm]
    exact_mod_cast Iff.rfl
  · obtain ⟨j, hj⟩ := Int.eq_ofNat_of_zero_le (by omega : 0 ≤ -k)
    obtain rfl : k = -j := by omega
    rw [zpow_neg, zpow_natCast, inv_mul_le_iff₀ (by positivity), mul_comm]
    simp only [neg_neg, Int.toNat_natCast]
    exact_mod_cast Iff.rfl

/-- The exponents of numerator and denominator leave two exponents for the quotient. -/
theorem log2_sub_log2 (hnum : 0 < num) (hden : 0 < den) :
    (2 : ℚ) ^ ((num.log2 : Int) - den.log2 - 1) ≤ num / den ∧
      (num : ℚ) / den < 2 ^ ((num.log2 : Int) - den.log2 + 1) := by
  have hpos : (0 : ℚ) < den := by exact_mod_cast hden
  have hnumLow : (2 : ℚ) ^ num.log2 ≤ num := by exact_mod_cast Nat.log2_self_le hnum.ne'
  have hnumHigh : (num : ℚ) < 2 ^ (num.log2 + 1) := by exact_mod_cast Nat.lt_log2_self
  have hdenLow : (2 : ℚ) ^ den.log2 ≤ den := by exact_mod_cast Nat.log2_self_le hden.ne'
  have hdenHigh : (den : ℚ) < 2 ^ (den.log2 + 1) := by exact_mod_cast Nat.lt_log2_self
  rw [le_div_iff₀ hpos, div_lt_iff₀ hpos]
  constructor
  · calc (2 : ℚ) ^ ((num.log2 : Int) - den.log2 - 1) * den
        ≤ 2 ^ ((num.log2 : Int) - den.log2 - 1) * 2 ^ (den.log2 + 1) := by gcongr
      _ = 2 ^ num.log2 := by
        rw [← zpow_natCast, ← zpow_add₀ two_ne_zero, ← zpow_natCast]
        congr 1
        push_cast
        omega
      _ ≤ num := hnumLow
  · calc (num : ℚ) < 2 ^ (num.log2 + 1) := hnumHigh
      _ = 2 ^ ((num.log2 : Int) - den.log2 + 1) * 2 ^ den.log2 := by
        rw [← zpow_natCast, ← zpow_natCast (2 : ℚ) den.log2, ← zpow_add₀ two_ne_zero]
        congr 1
        push_cast
        omega
      _ ≤ 2 ^ ((num.log2 : Int) - den.log2 + 1) * den := by gcongr

theorem binaryExponent_eq (hnum : 0 < num) (hden : 0 < den) :
    binaryExponent num den = Int.log 2 ((num : ℚ) / den) := by
  have hpos : (0 : ℚ) < num / den := by positivity
  obtain ⟨hlow, hhigh⟩ := log2_sub_log2 hnum hden
  have hlog : (num.log2 : Int) - den.log2 - 1 ≤ Int.log 2 ((num : ℚ) / den) :=
    (Int.zpow_le_iff_le_log one_lt_two hpos).1 (by exact_mod_cast hlow)
  have hlog' : Int.log 2 ((num : ℚ) / den) < (num.log2 : Int) - den.log2 + 1 :=
    (Int.lt_zpow_iff_log_lt one_lt_two hpos).1 (by exact_mod_cast hhigh)
  have hreaches := (reaches_iff num hden ((num.log2 : Int) - den.log2)).trans
    (Int.zpow_le_iff_le_log one_lt_two hpos)
  have hexponent : binaryExponent num den
      = if (num.log2 : Int) - den.log2 ≤ Int.log 2 ((num : ℚ) / den)
        then (num.log2 : Int) - den.log2 else (num.log2 : Int) - den.log2 - 1 :=
    if_congr hreaches rfl rfl
  rw [hexponent]
  split_ifs <;> omega

/-- The whole number of units of a place that is nearest to a quotient. -/
theorem isNearest_units (num : Nat) (hden : 0 < den) (e : Int) :
    IsNearest ((num : ℚ) / den / 2 ^ e)
      (if 0 ≤ e then roundHalfEven num (den * twoTo e.toNat)
        else roundHalfEven (num * twoTo (-e).toNat) den) := by
  split_ifs with he
  · obtain ⟨k, rfl⟩ := Int.eq_ofNat_of_zero_le he
    have hunits : (num : ℚ) / den / 2 ^ (k : Int) = num / (den * twoTo k : Nat) := by
      rw [div_div, zpow_natCast]
      simp [twoTo]
    rw [hunits]
    exact isNearest_roundHalfEven num (Nat.mul_pos hden (twoTo_pos k))
  · obtain ⟨k, hk⟩ := Int.eq_ofNat_of_zero_le (by omega : 0 ≤ -e)
    obtain rfl : e = -k := by omega
    have hunits : (num : ℚ) / den / 2 ^ (-k : Int) = (num * twoTo k : Nat) / den := by
      rw [zpow_neg, div_inv_eq_mul, zpow_natCast, div_mul_eq_mul_div]
      simp [twoTo]
    rw [hunits, hk]
    exact isNearest_roundHalfEven _ hden

/-- A quotient has the pattern of its last place and of the units of it that are nearest. -/
theorem nearestPattern_eq (hnum : 0 < num) (hden : 0 < den) :
    ∃ m, IsNearest ((num : ℚ) / den / 2 ^ lastPlace (num / den)) m ∧
      nearestPattern num den = (lastPlace (num / den) + 1074).toNat * fractions + m := by
  unfold nearestPattern
  rw [if_neg hnum.ne', binaryExponent_eq hnum hden]
  exact ⟨_, isNearest_units num hden _, rfl⟩

end Quotients

section Units

variable {p q : ℚ} {m n : Nat}

/-- A quotient has at most `2 ^ 53` units of its last place. -/
theorem le_of_isNearest (h : IsNearest (q / 2 ^ lastPlace q) m) : m ≤ 2 * fractions := by
  refine h.mono (.natCast _) ?_
  rw [div_le_iff₀ (by positivity)]
  have hlast : Int.log 2 q + 1 ≤ 53 + lastPlace q := by
    unfold lastPlace
    omega
  calc q ≤ (2 : ℚ) ^ (Int.log 2 q + 1) := (Int.lt_zpow_succ_log_self one_lt_two q).le
    _ ≤ 2 ^ (53 + lastPlace q) := zpow_le_zpow_right₀ one_le_two hlast
    _ = (2 * fractions : Nat) * 2 ^ lastPlace q := by
      rw [zpow_add₀ two_ne_zero]
      norm_num [fractions]

/-- It has `2 ^ 52` of them, unless the last place is the last of all. -/
theorem fractions_le_of_isNearest (hq : 0 < q) (h : IsNearest (q / 2 ^ lastPlace q) m)
    (hplace : -1074 < lastPlace q) : fractions ≤ m := by
  refine (IsNearest.natCast _).mono h ?_
  rw [le_div_iff₀ (by positivity)]
  have hlast : 52 + lastPlace q = Int.log 2 q := by
    unfold lastPlace at hplace ⊢
    omega
  calc (fractions : ℚ) * 2 ^ lastPlace q = 2 ^ (52 + lastPlace q) := by
        rw [zpow_add₀ two_ne_zero]
        norm_num [fractions]
    _ = 2 ^ Int.log 2 q := by rw [hlast]
    _ ≤ q := Int.zpow_log_le_self one_lt_two hq

/-- The units of a larger quotient, after those of its place, are no fewer. -/
theorem pattern_le (hp : 0 < p) (h : p ≤ q) (hm : IsNearest (p / 2 ^ lastPlace p) m)
    (hn : IsNearest (q / 2 ^ lastPlace q) n) :
    (lastPlace p + 1074).toNat * fractions + m ≤ (lastPlace q + 1074).toNat * fractions + n := by
  have hleast : -1074 ≤ lastPlace p := le_max_right _ _
  rcases (lastPlace_mono hp h).eq_or_lt with hsame | hless
  · rw [hsame] at hm ⊢
    have hle : m ≤ n := hm.mono hn (by gcongr)
    omega
  · have hsmall : m ≤ 2 * fractions := le_of_isNearest hm
    have hlarge : fractions ≤ n := fractions_le_of_isNearest (hp.trans_le h) hn (by omega)
    have hplaces : (lastPlace p + 1074).toNat + 1 ≤ (lastPlace q + 1074).toNat := by omega
    calc (lastPlace p + 1074).toNat * fractions + m
        ≤ ((lastPlace p + 1074).toNat + 1) * fractions + fractions := by
          rw [Nat.add_mul]
          omega
      _ ≤ (lastPlace q + 1074).toNat * fractions + n := by gcongr

/-- What is less than halfway from the largest finite double to the next power of two has a pattern
below the limit. -/
theorem pattern_lt (hq : 0 < q) (h : q < (2 ^ 54 - 1) * halfGap)
    (hm : IsNearest (q / 2 ^ lastPlace q) m) :
    (lastPlace q + 1074).toNat * fractions + m < patternLimit := by
  have hgap := halfGap_pos
  have htop : lastPlace q ≤ 971 := by
    have hpower : (2 ^ 54 - 1) * halfGap < 2 ^ (1024 : Int) := by
      have hsplit : (2 : ℚ) ^ (1024 : Int) = 2 ^ 54 * halfGap := by
        rw [halfGap, ← pow_add]
        rfl
      rw [hsplit]
      exact mul_lt_mul_of_pos_right (by norm_num) hgap
    have hlog : Int.log 2 q < 1024 :=
      (Int.lt_zpow_iff_log_lt one_lt_two hq).1 (by rw [Nat.cast_ofNat]; exact h.trans hpower)
    unfold lastPlace
    omega
  rcases htop.lt_or_eq with hless | heq
  · have hsmall : m ≤ 2 * fractions := le_of_isNearest hm
    have hplace : (lastPlace q + 1074).toNat ≤ 2044 := by omega
    calc (lastPlace q + 1074).toNat * fractions + m ≤ 2044 * fractions + 2 * fractions := by gcongr
      _ < patternLimit := by decide
  · have hunits : q / 2 ^ (971 : Int) < 2 ^ 53 - 1 / 2 := by
      rw [← two_mul_halfGap, div_lt_iff₀ (by linarith)]
      linarith
    rw [heq] at hm ⊢
    have hlow := hm.sub_half_le
    have hm : (m : ℚ) < (2 ^ 53 : Nat) := by
      push_cast
      linarith
    have hsmall : m < 2 ^ 53 := by exact_mod_cast hm
    unfold patternLimit topField fractions
    omega

end Units

/-- **A larger quotient has no smaller pattern.** -/
theorem nearestPattern_mono {a b c d : Nat} (hb : 0 < b) (hd : 0 < d)
    (h : (a : ℚ) / b ≤ c / d) : nearestPattern a b ≤ nearestPattern c d := by
  rcases Nat.eq_zero_or_pos a with rfl | ha
  · exact Nat.zero_le _
  · have hquotient : (0 : ℚ) < a / b := by positivity
    have hc : 0 < c := by
      rcases Nat.eq_zero_or_pos c with rfl | hc
      · simp only [Nat.cast_zero, zero_div] at h
        exact absurd h (not_le.2 hquotient)
      · exact hc
    obtain ⟨m, hm, hleft⟩ := nearestPattern_eq ha hb
    obtain ⟨n, hn, hright⟩ := nearestPattern_eq hc hd
    rw [hleft, hright]
    exact pattern_le hquotient h hm hn

/-- What is less than halfway from the largest finite double to the next power of two is not too
large, and all else is. -/
theorem nearestPattern_lt_iff {num den : Nat} (hden : 0 < den) :
    nearestPattern num den < patternLimit ↔ (num : ℚ) / den < (2 ^ 54 - 1) * halfGap := by
  constructor
  · intro hpattern
    by_contra! hlarge
    have hbound : nearestPattern ((2 ^ 54 - 1) * 2 ^ 970) 1 = patternLimit := by decide +kernel
    have hcast : ((2 ^ 54 - 1 : Nat) : ℚ) = 2 ^ 54 - 1 := by norm_num
    have hquotient : (((2 ^ 54 - 1) * 2 ^ 970 : Nat) : ℚ) / (1 : Nat) ≤ num / den := by
      rw [Nat.cast_mul, hcast, Nat.cast_pow, Nat.cast_one, div_one]
      exact hlarge
    exact absurd (nearestPattern_mono one_pos hden hquotient) (by omega)
  · intro hsmall
    rcases Nat.eq_zero_or_pos num with rfl | hnum
    · exact patternLimit_pos
    · obtain ⟨m, hm, hpattern⟩ := nearestPattern_eq hnum hden
      rw [hpattern]
      exact pattern_lt (by positivity) hsmall hm

/-! ## Patterns and magnitudes -/

/-- What the double with a pattern stands for: units of `2 ^ (k - 1074)`, where each further `k`
takes up `2 ^ 52` patterns, and the first one twice as many. -/
def magnitude (pattern : Nat) : Rat :=
  let k := pattern / fractions - 1
  scaled (pattern - k * fractions : Nat) (k - 1074)

theorem ofFloat_ofPattern {pattern : Nat} (h : pattern < patternLimit) :
    Quantity.ofFloat (ofPattern false pattern h) = .finite (magnitude pattern) := by
  have hfield : pattern / fractions ≠ topField :=
    Nat.ne_of_lt ((Nat.div_lt_iff_lt_mul (by decide)).2 h)
  have hsplit := Nat.div_add_mod' pattern fractions
  rw [Quantity.ofFloat, parts_ofPattern h, partsOf, if_neg hfield]
  unfold magnitude
  generalize pattern / fractions = field at *
  generalize pattern % fractions = fraction at *
  split_ifs with hzero
  · obtain rfl : fraction = pattern := by rw [← hsplit, hzero, Nat.zero_mul, Nat.zero_add]
    rw [hzero]
    simp only [Nat.zero_sub, Nat.zero_mul, Nat.sub_zero]
    rfl
  · obtain ⟨k, rfl⟩ := Nat.exists_eq_succ_of_ne_zero hzero
    have hunits : pattern - k * fractions = fraction + fractions := by
      rw [← hsplit, Nat.succ_mul]
      omega
    have hexponent : ((k.succ : Nat) : Int) - 1075 = k - 1074 := by omega
    simp only [Nat.succ_sub_one, hunits, hexponent]
    rfl

/-- A pattern is split into its `k` and the units. -/
theorem exists_units (pattern : Nat) : ∃ k m, pattern = k * fractions + m ∧ m < 2 * fractions ∧
    (0 < k → fractions ≤ m) ∧ magnitude pattern = m * 2 ^ ((k : Int) - 1074) := by
  have hsplit := Nat.div_add_mod' pattern fractions
  have hfraction : pattern % fractions < fractions := Nat.mod_lt pattern (by decide)
  obtain ⟨k, hk⟩ : ∃ k, k = pattern / fractions - 1 := ⟨_, rfl⟩
  have hunits : k * fractions ≤ pattern ∧ pattern < k * fractions + 2 * fractions ∧
      (0 < k → k * fractions + fractions ≤ pattern) := by
    cases hfield : pattern / fractions with
    | zero =>
      obtain rfl : k = 0 := by omega
      rw [hfield] at hsplit
      omega
    | succ j =>
      obtain rfl : k = j := by omega
      rw [hfield, Nat.succ_mul] at hsplit
      omega
  refine ⟨k, pattern - k * fractions, by omega, by omega, by omega, ?_⟩
  rw [magnitude, ← hk, scaled_eq]
  rfl

/-- A quotient that is not negative rounds to the double with its pattern. -/
theorem ofQuotient?_natCast (num den : Nat) :
    ofQuotient? num den
      = if h : nearestPattern num den < patternLimit then some (ofPattern false _ h) else none := by
  have hsign : decide ((num : Int) < 0) = false := decide_eq_false (by omega)
  unfold ofQuotient?
  rw [Int.natAbs_natCast, hsign]

theorem add_fractions_le {k l : Nat} (h : k < l) : k * fractions + fractions ≤ l * fractions := by
  rw [← Nat.succ_mul]
  exact Nat.mul_le_mul_right fractions h

theorem magnitude_pos_iff {pattern : Nat} : 0 < magnitude pattern ↔ 0 < pattern := by
  obtain ⟨k, m, rfl, -, hlarge, hmagnitude⟩ := exists_units pattern
  have hunits : 0 < k * fractions + m ↔ 0 < m := by
    rcases Nat.eq_zero_or_pos k with rfl | hk
    · rw [Nat.zero_mul, Nat.zero_add]
    · have hm : 0 < m := (show 0 < fractions by decide).trans_le (hlarge hk)
      omega
  rw [hunits, hmagnitude, mul_pos_iff_of_pos_right (by positivity), Nat.cast_pos]

/-- **A double with a larger pattern is no smaller.** -/
theorem magnitude_mono : Monotone magnitude := by
  intro p q h
  obtain ⟨k, m, rfl, hsmall, hk, hp⟩ := exists_units p
  obtain ⟨l, n, rfl, hsmall', hl, hq⟩ := exists_units q
  rw [hp, hq]
  rcases lt_trichotomy k l with hless | rfl | hmore
  · have hm : (m : ℚ) ≤ 2 * fractions := by exact_mod_cast hsmall.le
    have hn : (fractions : ℚ) ≤ n := by exact_mod_cast hl (by omega)
    have hexponent : (k : Int) - 1074 + 1 ≤ l - 1074 := by omega
    calc (m : ℚ) * 2 ^ ((k : Int) - 1074)
        ≤ 2 * fractions * 2 ^ ((k : Int) - 1074) := by gcongr
      _ = fractions * 2 ^ ((k : Int) - 1074 + 1) := by
        rw [zpow_add_one₀ two_ne_zero]
        ring
      _ ≤ n * 2 ^ ((l : Int) - 1074) := by
        have := zpow_le_zpow_right₀ (one_le_two (α := ℚ)) hexponent
        gcongr
  · have hunits : m ≤ n := Nat.add_le_add_iff_left.1 h
    gcongr
  · -- the first `k` patterns are those of smaller units
    have hgap := add_fractions_le hmore
    have hm := hk (by omega)
    omega

/-! ## Errors of rounding -/

/-- Only if all units of a place are taken does the pattern belong to another place, the next. -/
theorem eq_of_carried {k l m n : Nat} (hless : k < l)
    (hpattern : k * fractions + m = l * fractions + n) (hm : m ≤ 2 * fractions)
    (hn : fractions ≤ n) : l = k + 1 ∧ m = 2 * fractions ∧ n = fractions := by
  have hpos : 0 < fractions := by decide
  obtain rfl : l = k + 1 := by
    by_contra hne
    have hgap := add_fractions_le (by omega : k + 1 < l)
    rw [Nat.add_mul] at hgap
    omega
  rw [Nat.add_mul] at hpattern
  omega

/-- Units of a place make up the double with their pattern, also if there are so many that the place
is carried. -/
theorem magnitude_of_units {k m : Nat} (hsmall : m ≤ 2 * fractions) (hlarge : 0 < k → fractions ≤ m) :
    magnitude (k * fractions + m) = m * 2 ^ ((k : Int) - 1074) := by
  obtain ⟨l, n, hpattern, hn, hl, hmagnitude⟩ := exists_units (k * fractions + m)
  rw [hmagnitude]
  rcases lt_trichotomy k l with hless | rfl | hmore
  · obtain ⟨rfl, rfl, rfl⟩ := eq_of_carried hless hpattern hsmall (hl (by omega))
    have hplace : ((k + 1 : Nat) : Int) - 1074 = k - 1074 + 1 := by omega
    rw [hplace, zpow_add_one₀ two_ne_zero]
    push_cast
    ring
  · obtain rfl : m = n := by omega
    rfl
  · have hgap := add_fractions_le hmore
    have hm := hlarge (by omega)
    omega

/-- A quotient is at most half a unit of its last place away from the double it is rounded to. -/
theorem abs_magnitude_sub_le {num den : Nat} (hnum : 0 < num) (hden : 0 < den) :
    |magnitude (nearestPattern num den) - num / den| ≤ 2 ^ lastPlace (num / den) / 2 := by
  obtain ⟨m, hm, hpattern⟩ := nearestPattern_eq hnum hden
  have hquotient : (0 : ℚ) < num / den := by positivity
  rw [hpattern]
  generalize (num : ℚ) / den = q at *
  have hleast : -1074 ≤ lastPlace q := le_max_right _ _
  have hplace : (((lastPlace q + 1074).toNat : Nat) : Int) - 1074 = lastPlace q := by omega
  have hunit : (0 : ℚ) < 2 ^ lastPlace q := by positivity
  rw [magnitude_of_units (le_of_isNearest hm) fun hk =>
    fractions_le_of_isNearest hquotient hm (by omega), hplace]
  have herror : |m - q / 2 ^ lastPlace q| ≤ 1 / 2 :=
    abs_le.2 ⟨by linarith [hm.le_add_half], by linarith [hm.sub_half_le]⟩
  calc |m * 2 ^ lastPlace q - q|
      = |m - q / 2 ^ lastPlace q| * 2 ^ lastPlace q := by
        rw [← abs_of_pos hunit, ← abs_mul, abs_of_pos hunit, sub_mul, div_mul_cancel₀ _ hunit.ne']
    _ ≤ 1 / 2 * 2 ^ lastPlace q := by gcongr
    _ = 2 ^ lastPlace q / 2 := by ring

/-- **The relative error is at most `2 ^ -53`**, unless the quotient is below `2 ^ -1022`. -/
theorem abs_magnitude_sub_le_div {num den : Nat} (hden : 0 < den)
    (h : (2 : ℚ) ^ (-1022 : Int) ≤ num / den) :
    |magnitude (nearestPattern num den) - num / den| ≤ num / den / 2 ^ 53 := by
  have hquotient : (0 : ℚ) < num / den := lt_of_lt_of_le (by positivity) h
  have hnum : 0 < num := by
    rcases Nat.eq_zero_or_pos num with rfl | hnum
    · simp at hquotient
    · exact hnum
  have hplace : lastPlace ((num : ℚ) / den) = Int.log 2 ((num : ℚ) / den) - 52 := by
    have hlog := (Int.zpow_le_iff_le_log one_lt_two hquotient).1 (by exact_mod_cast h)
    unfold lastPlace
    omega
  have hunit : (2 : ℚ) ^ lastPlace ((num : ℚ) / den) ≤ num / den / 2 ^ 52 := by
    rw [hplace, zpow_sub₀ two_ne_zero]
    have hlow : (2 : ℚ) ^ Int.log 2 ((num : ℚ) / den) ≤ num / den := by
      exact_mod_cast Int.zpow_log_le_self one_lt_two hquotient
    exact div_le_div_of_nonneg_right hlow (by positivity)
  calc |magnitude (nearestPattern num den) - num / den|
      ≤ 2 ^ lastPlace ((num : ℚ) / den) / 2 := abs_magnitude_sub_le hnum hden
    _ ≤ num / den / 2 ^ 52 / 2 := by gcongr
    _ = num / den / 2 ^ 53 := by ring

end TimedLock.Number
