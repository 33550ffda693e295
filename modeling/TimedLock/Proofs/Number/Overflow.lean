import Mathlib.Tactic.Linarith
import TimedLock.Proofs.Number.Difference

/-!
# Sums of doubles without overflow

A deadline is the reading of a clock plus an amount of seconds. It is undefined just if the amount
is (`isDefined_add`), and so is an amount that was multiplied or divided (`isDefined_mul`,
`isDefined_div`).

**Theorem (`add_ne_infinite`).** To an amount that is not infinite, a reading below `2 ^ 970` adds up
to no infinity.

A sum overflows when its mantissa is rounded up to 54 bits at the largest exponent. Rounding looks at
one bit of what it drops (`roundBit_shiftRight`), so a value that is less than halfway from `N` to
`N + 1` rounds to `N` at most (`rounded_le`), and a mantissa that fits keeps its exponent in range
(`fits_round`).
-/

namespace TimedLock.Number

open Float.Model Float.Model.UnpackedFloat

/-! ## Undefined doubles -/

theorem isDefined_ofUnpacked (u : UnpackedFloat) :
    (Quantity.ofUnpacked u).isDefined = false ↔ u = .notANumber := by
  cases u <;> simp [Quantity.ofUnpacked, Quantity.isDefined]

/-- Bits whose exponent is not the top one are those of a finite double. -/
theorem exists_finite_of_field {b : BitVec 64} (h : fieldOf b ≠ topField) :
    ∃ q, Quantity.ofUnpacked (UnpackedFloat.unpack .binary64 b) = .finite q := by
  have hu := unpacks b
  generalize UnpackedFloat.unpack Format.binary64 b = u at hu
  cases hu with
  | infinity hfield _ => exact absurd hfield h
  | notANumber hfield _ => exact absurd hfield h
  | zero _ _ => exact ⟨_, rfl⟩
  | subnormal _ _ _ => exact ⟨_, rfl⟩
  | normal _ _ _ _ => exact ⟨_, rfl⟩

/-- Unpacked doubles that are finite and not too large to be packed. -/
def Fits : UnpackedFloat → Prop
  | .zero _ => True
  | .finite _ _ e _ => e ≤ 971
  | _ => False

theorem fieldOf_packComponents (s : Sign) (field : BitVec 11) (fraction : BitVec 52) :
    fieldOf (packComponents .binary64 s field fraction) = field.toNat :=
  congrArg BitVec.toNat unpackExponent_packComponents

/-- What fits stays finite. -/
theorem Fits.pack {u : UnpackedFloat} (h : Fits u) :
    ∃ q, Quantity.ofUnpacked (Float.Model.pack u).unpack = .finite q := by
  cases u with
  | notANumber => exact h.elim
  | infinity s => exact h.elim
  | zero s => cases s <;> exact ⟨0, rfl⟩
  | finite s m e hm =>
    have he : e ≤ 971 := h
    show ∃ q, Quantity.ofUnpacked
      (UnpackedFloat.unpack .binary64 (UnpackedFloat.pack .binary64 _)) = .finite q
    rw [pack_finite, if_neg (by omega)]
    by_cases hlog : m.log2 = 52
    · rw [if_pos hlog]
      apply exists_finite_of_field
      rw [fieldOf_packComponents, BitVec.toNat_ofNat]
      unfold topField
      omega
    · rw [if_neg hlog]
      apply exists_finite_of_field
      rw [fieldOf_packComponents]
      decide

theorem pack_infinity (s : Sign) :
    Quantity.ofUnpacked (Float.Model.pack (.infinity s)).unpack = .infinite (s == .negative) := by
  cases s <;> rfl

/-- Packing makes nothing undefined. -/
theorem isDefined_pack (u : UnpackedFloat) :
    (Quantity.ofUnpacked (Float.Model.pack u).unpack).isDefined
      = (Quantity.ofUnpacked u).isDefined := by
  cases u with
  | notANumber => rfl
  | infinity s => cases s <;> rfl
  | zero s => cases s <;> rfl
  | finite s m e hm =>
    by_cases he : e ≤ 971
    · obtain ⟨q, hq⟩ := Fits.pack (show Fits (.finite s m e hm) from he)
      rw [hq]
      rfl
    · show (Quantity.ofUnpacked
        (UnpackedFloat.unpack .binary64 (UnpackedFloat.pack .binary64 _))).isDefined = true
      rw [pack_finite, if_pos (by omega)]
      cases s <;> rfl

theorem isDefined_roundWithAccuracy (s : Sign) (m : Nat) (e : Int) (accuracy : Accuracy) :
    (Quantity.ofUnpacked (roundWithAccuracy .binary64 s m e accuracy)).isDefined = true := by
  simp only [roundWithAccuracy]
  split <;> rfl

theorem isDefined_normalize (m : Int) (e : Int) (s : Sign) :
    (Quantity.ofUnpacked (UnpackedFloat.normalize .binary64 m e s)).isDefined = true := by
  unfold UnpackedFloat.normalize
  split
  · exact isDefined_roundWithAccuracy _ _ _ _
  · rfl
  · exact isDefined_roundWithAccuracy _ _ _ _

section Operations

variable {x y : Float} {p q : ℚ}

/-- A sum with a finite double is undefined just if the other one is. -/
theorem isDefined_add (hx : Quantity.ofFloat x = .finite p) :
    (Quantity.ofFloat (x + y)).isDefined = (Quantity.ofFloat y).isDefined := by
  have hsum : (x + y).toModel
      = Float.Model.pack (UnpackedFloat.add .binary64 x.toModel.unpack y.toModel.unpack) := rfl
  rw [ofFloat_eq] at hx ⊢
  rw [ofFloat_eq, hsum, isDefined_pack]
  generalize x.toModel.unpack = u at hx
  generalize y.toModel.unpack = v
  cases u with
  | notANumber => cases hx
  | infinity s => cases hx
  | zero s =>
    cases v with
    | zero s' =>
      show (Quantity.ofUnpacked (if s == s' then .zero s else .zero .positive)).isDefined = true
      split <;> rfl
    | _ => rfl
  | finite s m e hm =>
    cases v with
    | finite s' m' e' hm' => exact isDefined_normalize _ _ _
    | _ => rfl

/-- An infinite double stays what it is. -/
theorem ofFloat_add_infinite {negative : Bool} (hx : Quantity.ofFloat x = .finite p)
    (hy : Quantity.ofFloat y = .infinite negative) :
    Quantity.ofFloat (x + y) = .infinite negative := by
  have hsum : (x + y).toModel
      = Float.Model.pack (UnpackedFloat.add .binary64 x.toModel.unpack y.toModel.unpack) := rfl
  rw [ofFloat_eq] at hx hy ⊢
  rw [hsum]
  generalize x.toModel.unpack = u at hx
  generalize y.toModel.unpack = v at hy
  cases v with
  | notANumber => cases hy
  | zero s => cases hy
  | finite s m e hm => cases hy
  | infinity s =>
    cases hy
    cases u with
    | notANumber => cases hx
    | infinity s' => cases hx
    | zero s' => exact pack_infinity s
    | finite s' m e hm => exact pack_infinity s

/-- A finite double other than zero has a mantissa. -/
theorem exists_of_finite_ne_zero {v : UnpackedFloat} (hv : Quantity.ofUnpacked v = .finite q)
    (hq : q ≠ 0) : ∃ s m e hm, v = .finite s m e hm := by
  cases v with
  | notANumber => cases hv
  | infinity s => cases hv
  | zero s =>
    cases hv
    exact absurd rfl hq
  | finite s m e hm => exact ⟨s, m, e, hm, rfl⟩

/-- A product with a finite double other than zero is undefined just if the other one is. -/
theorem isDefined_mul (hy : Quantity.ofFloat y = .finite q) (hq : q ≠ 0) :
    (Quantity.ofFloat (x * y)).isDefined = (Quantity.ofFloat x).isDefined := by
  have hproduct : (x * y).toModel
      = Float.Model.pack (UnpackedFloat.mul .binary64 x.toModel.unpack y.toModel.unpack) := rfl
  rw [ofFloat_eq] at hy
  rw [ofFloat_eq, ofFloat_eq, hproduct, isDefined_pack]
  obtain ⟨s, m, e, hm, hy⟩ := exists_of_finite_ne_zero hy hq
  rw [hy]
  cases x.toModel.unpack with
  | finite s' m' e' hm' => exact isDefined_roundWithAccuracy _ _ _ _
  | _ => rfl

/-- So is a quotient by such a double. -/
theorem isDefined_div (hy : Quantity.ofFloat y = .finite q) (hq : q ≠ 0) :
    (Quantity.ofFloat (x / y)).isDefined = (Quantity.ofFloat x).isDefined := by
  have hquotient : (x / y).toModel
      = Float.Model.pack (UnpackedFloat.div .binary64 x.toModel.unpack y.toModel.unpack) := rfl
  rw [ofFloat_eq] at hy
  rw [ofFloat_eq, ofFloat_eq, hquotient, isDefined_pack]
  obtain ⟨s, m, e, hm, hy⟩ := exists_of_finite_ne_zero hy hq
  rw [hy]
  cases x.toModel.unpack with
  | finite s' m' e' hm' => exact isDefined_roundWithAccuracy _ _ _ _
  | _ => rfl

/-- What is undefined minus anything is undefined. -/
theorem sub_of_undefined (hx : (Quantity.ofFloat x).isDefined = false) :
    (Quantity.ofFloat (x - y)).isDefined = false := by
  have hdifference : (x - y).toModel
      = Float.Model.pack (UnpackedFloat.sub .binary64 x.toModel.unpack y.toModel.unpack) := rfl
  rw [ofFloat_eq, isDefined_ofUnpacked] at hx
  rw [ofFloat_eq, hdifference, isDefined_pack, hx]
  rfl

/-- Minus infinity less something finite is not above zero. -/
theorem sub_le_zero_of_infinite (hx : Quantity.ofFloat x = .infinite true)
    (hy : Quantity.ofFloat y = .finite q) : (Quantity.ofFloat (x - y)).le .zero = true := by
  have hdifference : (x - y).toModel
      = Float.Model.pack (UnpackedFloat.sub .binary64 x.toModel.unpack y.toModel.unpack) := rfl
  rw [ofFloat_eq] at hx hy ⊢
  rw [hdifference]
  refine (NotAbove.pack ?_).le_zero
  generalize x.toModel.unpack = u at hx
  generalize y.toModel.unpack = v at hy
  cases u with
  | infinity s =>
    cases s with
    | positive => cases hx
    | negative =>
      cases v with
      | notANumber => cases hy
      | infinity s' => cases hy
      | zero s' => rfl
      | finite s' m e hm => rfl
  | notANumber => cases hx
  | zero s => cases hx
  | finite s m e hm => cases hx

/-- Infinity less anything is not at most zero. -/
theorem not_sub_le_zero_of_infinite (hx : Quantity.ofFloat x = .infinite false) :
    (Quantity.ofFloat (x - y)).le .zero = false := by
  have hdifference : (x - y).toModel
      = Float.Model.pack (UnpackedFloat.sub .binary64 x.toModel.unpack y.toModel.unpack) := rfl
  rw [ofFloat_eq] at hx ⊢
  rw [hdifference]
  generalize x.toModel.unpack = u at hx
  generalize y.toModel.unpack = v
  cases u with
  | infinity s =>
    cases s with
    | negative => cases hx
    | positive =>
      cases v with
      | notANumber => rfl
      | infinity s' => cases s' <;> rfl
      | zero s' => cases s' <;> rfl
      | finite s' m e hm =>
        have hsame : UnpackedFloat.sub .binary64 (.infinity .positive) (.finite s' m e hm)
            = .infinity .positive := rfl
        rw [hsame, pack_infinity]
        rfl
  | notANumber => cases hx
  | zero s => cases hx
  | finite s m e hm => cases hx

end Operations

/-! ## Rounding -/

theorem mantissa_shiftRight (em : ExtendedMantissa) (k : Nat) :
    (em >>> k).mantissa = em.mantissa / 2 ^ k := by
  show (k.repeat ExtendedMantissa.shiftRightOne em).mantissa = _
  induction k with
  | zero => simp [Nat.repeat]
  | succ k ih =>
    show (k.repeat ExtendedMantissa.shiftRightOne em).mantissa / 2 = _
    rw [ih, Nat.div_div_eq_div_mul, Nat.pow_succ]

/-- The round bit is the highest one of those that were dropped. -/
theorem roundBit_shiftRight (em : ExtendedMantissa) (k : Nat) :
    (em >>> (k + 1)).roundBit = (em.mantissa / 2 ^ k % 2 != 0) :=
  congrArg (fun m => m % 2 != 0) (mantissa_shiftRight em k)

theorem roundedMantissa_le (em : ExtendedMantissa) :
    em.roundedMantissa ≤ em.mantissa + em.roundBit.toNat := by
  obtain ⟨m, round, sticky⟩ := em
  cases round <;> cases sticky <;>
    simp only [ExtendedMantissa.roundedMantissa, ExtendedMantissa.accuracy,
      Accuracy.roundToNearestEven, Bool.toNat] <;> grind

/-- What is less than halfway from `N` to `N + 1` is rounded to `N` at most. -/
theorem rounded_le {m k N : Nat} (h : 2 * m < (2 * N + 1) * 2 ^ k) :
    (ExtendedMantissa.ofMantissaAndAccuracy m .exact >>> k).roundedMantissa ≤ N := by
  cases k with
  | zero =>
    show m ≤ N
    omega
  | succ k =>
    have hdropped : m / 2 ^ k < 2 * N + 1 := by
      rw [Nat.div_lt_iff_lt_mul (by positivity)]
      rw [Nat.pow_succ] at h
      linarith
    have hle := roundedMantissa_le (ExtendedMantissa.ofMantissaAndAccuracy m .exact >>> (k + 1))
    rw [mantissa_shiftRight, roundBit_shiftRight] at hle
    refine hle.trans ?_
    show m / 2 ^ (k + 1) + (m / 2 ^ k % 2 != 0).toNat ≤ N
    rw [Nat.pow_succ, ← Nat.div_div_eq_div_mul]
    generalize m / 2 ^ k = n at hdropped
    rcases Nat.mod_two_eq_zero_or_one n with hn | hn <;> simp [hn] <;> omega

theorem targetExponent_eq (m : Nat) (e : Int) :
    Format.binary64.targetExponent (totalExponent m e) = max (m.log2 + 1 + e - 53) (-1074) := rfl

/-- A mantissa that is rounded to 53 bits, or to one more where the exponent is not the largest, has
an exponent in range. -/
theorem fits_roundWithAccuracy (s : Sign) {m N : Nat} {e t : Int}
    (ht : max (m.log2 + 1 + e - 53) (-1074) = t) (he : e ≤ t) (htop : t ≤ 971)
    (hm : 2 * m < (2 * N + 1) * 2 ^ (t - e).toNat)
    (hN : N < 2 ^ 53 ∨ N ≤ 2 ^ 53 ∧ t ≤ 970) :
    Fits (roundWithAccuracy .binary64 s m e .exact) := by
  have hr := rounded_le hm
  have hsum : e + ((t - e).toNat : Int) = t := by omega
  simp only [roundWithAccuracy, shiftToTargetExponent, shiftToExponent, targetExponent_eq, ht, hsum]
  split
  · trivial
  · show t + ((max (_ + 1 + t - 53) (-1074) - t).toNat : Int) ≤ 971
    generalize ExtendedMantissa.roundedMantissa _ = r at hr
    have hlog : r.log2 ≤ 52 ∨ r.log2 ≤ 53 ∧ t ≤ 970 := by
      by_cases hr0 : r = 0
      · simp [hr0]
      · rw [← Nat.lt_succ_iff, Nat.log2_lt hr0, ← Nat.lt_succ_iff (n := 53), Nat.log2_lt hr0]
        omega
    omega

theorem log2_shiftLeft {m : Nat} (hm : m ≠ 0) (k : Nat) : (m <<< k).log2 = m.log2 + k := by
  induction k with
  | zero => rfl
  | succ k ih =>
    have hne : m <<< k ≠ 0 := by simpa [Nat.shiftLeft_eq] using hm
    rw [Nat.shiftLeft_succ, Nat.log2_two_mul hne, ih, Nat.add_assoc]

/-- Half of the distance from the largest finite double to the one before it. -/
def halfGap : ℚ := 2 ^ 970

theorem halfGap_pos : 0 < halfGap := by
  unfold halfGap
  positivity

theorem two_mul_halfGap : 2 * halfGap = 2 ^ (971 : Int) := (pow_succ' 2 970).symm

/-- What is less than halfway from the largest finite double to the next power of two is below that
power. -/
theorem log2_add_lt {m : Nat} {e : Int} (hm : m ≠ 0) (h : scaled m e < (2 ^ 54 - 1) * halfGap) :
    (m.log2 : Int) + e < 1024 := by
  have hlow : (2 : ℚ) ^ ((m.log2 : Int) + e) ≤ scaled m e := by
    rw [scaled_eq, zpow_add₀ two_ne_zero, zpow_natCast]
    gcongr
    exact_mod_cast Nat.log2_self_le hm
  have hlt : (2 : ℚ) ^ ((m.log2 : Int) + e) < 2 ^ (1024 : Int) := by
    have hpos := halfGap_pos
    calc (2 : ℚ) ^ ((m.log2 : Int) + e) < (2 ^ 54 - 1) * halfGap := hlow.trans_lt h
      _ ≤ 2 ^ 53 * (2 * halfGap) := by linarith
      _ = 2 ^ (1024 : Int) := by
        rw [two_mul_halfGap, ← zpow_natCast, ← zpow_add₀ two_ne_zero]
        rfl
  exact (zpow_lt_zpow_iff_right₀ one_lt_two).1 hlt

/-- In terms of the largest exponent, it is less than halfway from `2 ^ 53 - 1` to `2 ^ 53`. -/
theorem two_mul_lt_of_scaled_lt {n : Nat} {e : Int} (he : e ≤ 971)
    (h : scaled n e < (2 ^ 54 - 1) * halfGap) :
    2 * n < (2 * (2 ^ 53 - 1) + 1) * 2 ^ (971 - e).toNat := by
  have hpos : (0 : ℚ) < 2 ^ e := by positivity
  have hpow : ((971 - e).toNat : Int) = 971 - e := by omega
  have hscale : (2 : ℚ) ^ (971 - e).toNat * 2 ^ e = 2 * halfGap := by
    rw [two_mul_halfGap, ← zpow_natCast (2 : ℚ) (971 - e).toNat, hpow, ← zpow_add₀ two_ne_zero,
      sub_add_cancel]
  have hexact : (n : ℚ) * 2 ^ e < (2 ^ 54 - 1) * halfGap := by
    rw [scaled_eq] at h
    exact_mod_cast h
  have hhalf : (2 * n : ℚ) < (2 * (2 ^ 53 - 1 : Nat) + 1) * 2 ^ (971 - e).toNat := by
    rw [← mul_lt_mul_iff_left₀ hpos, mul_assoc, mul_assoc _ _ ((2 : ℚ) ^ e), hscale]
    calc 2 * ((n : ℚ) * 2 ^ e) < 2 * ((2 ^ 54 - 1) * halfGap) := by gcongr
      _ = (2 * (2 ^ 53 - 1 : Nat) + 1) * (2 * halfGap) := by push_cast; ring
  exact_mod_cast hhalf

/-- It stays finite when it is rounded. -/
theorem fits_round (s : Sign) {m : Nat} {e : Int} (hm : 0 < m)
    (h : scaled m e < (2 ^ 54 - 1) * halfGap) : Fits (UnpackedFloat.round .binary64 s m e) := by
  have hm' : m ≠ 0 := Nat.ne_of_gt hm
  have hlog : (m.log2 : Int) + e < 1024 := log2_add_lt hm' h
  unfold UnpackedFloat.round
  simp only [decreaseExponent, targetExponent_eq]
  generalize ht : max ((m.log2 : Int) + 1 + e - 53) (-1074) = t
  obtain ⟨low, hlow⟩ : ∃ low, low = min e t := ⟨_, rfl⟩
  have hshift : (e - t).toNat = (e - low).toNat := by omega
  have hlast : e - ((e - low).toNat : Int) = low := by omega
  rw [hshift, hlast]
  have hsame : scaled (m <<< (e - low).toNat : Nat) low = scaled m e :=
    scaled_shiftLeft .positive m (by omega)
  have hbits : (m <<< (e - low).toNat).log2 = m.log2 + (e - low).toNat := log2_shiftLeft hm' _
  rw [← hsame] at h
  generalize m <<< (e - low).toNat = n at *
  have ht' : max ((n.log2 : Int) + 1 + low - 53) (-1074) = t := by omega
  by_cases htop : t ≤ 970
  · refine fits_roundWithAccuracy s (N := 2 ^ 53) ht' (by omega) (by omega) ?_ (.inr ⟨le_rfl, htop⟩)
    have hn : n < 2 ^ (n.log2 + 1) := Nat.lt_log2_self
    have hle : n.log2 + 1 ≤ 53 + (t - low).toNat := by omega
    calc 2 * n < 2 * 2 ^ (53 + (t - low).toNat) := by
          have := hn.trans_le (Nat.pow_le_pow_right two_pos hle)
          omega
      _ = 2 * 2 ^ 53 * 2 ^ (t - low).toNat := by rw [Nat.pow_add, ← Nat.mul_assoc]
      _ ≤ (2 * 2 ^ 53 + 1) * 2 ^ (t - low).toNat := Nat.mul_le_mul_right _ (Nat.le_succ _)
  · obtain rfl : t = 971 := by omega
    exact fits_roundWithAccuracy s (N := 2 ^ 53 - 1) ht' (by omega) le_rfl
      (two_mul_lt_of_scaled_lt (by omega) h) (.inl (by omega))

/-! ## Sums -/

/-- No mantissa of 53 bits makes more than the largest finite double. -/
theorem scaled_le_largest (s : Sign) {m : Nat} {e : Int} (hm : m < 2 ^ 53) (he : e ≤ 971) :
    scaled (s.apply m) e ≤ (2 ^ 53 - 1) * (2 * halfGap) := by
  have happly : s.apply m ≤ 2 ^ 53 - 1 := by cases s <;> simp only [Sign.apply] <;> omega
  have hcast : ((2 ^ 53 - 1 : Int) : ℚ) = 2 ^ 53 - 1 := by norm_num
  rw [scaled_eq]
  calc ((s.apply m : Int) : ℚ) * 2 ^ e ≤ ((2 ^ 53 - 1 : Int) : ℚ) * 2 ^ e := by gcongr
    _ ≤ ((2 ^ 53 - 1 : Int) : ℚ) * (2 * halfGap) := by
      rw [two_mul_halfGap]
      exact mul_le_mul_of_nonneg_left (zpow_le_zpow_right₀ one_le_two he) (by norm_num)
    _ = (2 ^ 53 - 1) * (2 * halfGap) := by rw [hcast]

/-- A finite double fits, and it is no larger than the largest one. -/
theorem fits_unpack {x : Float} {q : ℚ} (h : Quantity.ofFloat x = .finite q) :
    Fits x.toModel.unpack ∧ q ≤ (2 ^ 53 - 1) * (2 * halfGap) := by
  rw [ofFloat_eq] at h
  have hu : Unpacks x.toModel.toBits.toBitVec x.toModel.unpack := unpacks _
  have hfraction := fractionOf_lt x.toModel.toBits.toBitVec
  have hfield : fieldOf x.toModel.toBits.toBitVec < 2048 :=
    (@unpackExponent Format.binary64 x.toModel.toBits.toBitVec).isLt
  unfold fractions at hfraction
  generalize x.toModel.unpack = u at hu h
  cases hu with
  | infinity _ _ => cases h
  | notANumber _ _ => cases h
  | zero _ _ =>
    cases h
    have hgap := halfGap_pos
    exact ⟨trivial, by linarith⟩
  | subnormal _ hm he =>
    cases h
    exact ⟨show _ ≤ _ by omega, scaled_le_largest _ (by omega) (by omega)⟩
  | normal hne _ hm he =>
    cases h
    unfold topField at hne
    unfold fractions at hm
    exact ⟨show _ ≤ _ by omega, scaled_le_largest _ (by omega) (by omega)⟩

/-- The largest number that a double stands for. -/
def largest : ℚ := (2 ^ 53 - 1) * (2 * halfGap)

theorem le_largest {x : Float} {q : ℚ} (h : Quantity.ofFloat x = .finite q) : q ≤ largest :=
  (fits_unpack h).2

theorem scaled_add (a b e : Int) : scaled (a + b) e = scaled a e + scaled b e := by
  rw [scaled_eq, scaled_eq, scaled_eq, Int.cast_add, add_mul]

/-- An exact sum that is too small to overflow fits, or is not above zero. -/
theorem fits_normalize {m : Int} {e : Int} (h : scaled m e < (2 ^ 54 - 1) * halfGap) :
    Fits (UnpackedFloat.normalize .binary64 m e .positive) ∨
      NotAbove (UnpackedFloat.normalize .binary64 m e .positive) := by
  by_cases hm : m ≤ 0
  · exact .inr (notAbove_normalize hm e)
  · obtain ⟨n, rfl⟩ := Int.eq_ofNat_of_zero_le (by omega : 0 ≤ m)
    have hcompare : compare (n : Int) 0 = .gt := Int.compare_eq_gt.2 (by omega)
    unfold UnpackedFloat.normalize
    rw [hcompare]
    exact .inl (fits_round .positive (by omega) h)

theorem fits_add {u v : UnpackedFloat} {p q : ℚ} (hu : Fits u) (hv : Fits v)
    (hp : Quantity.ofUnpacked u = .finite p) (hq : Quantity.ofUnpacked v = .finite q)
    (h : p + q < (2 ^ 54 - 1) * halfGap) :
    Fits (UnpackedFloat.add .binary64 u v) ∨ NotAbove (UnpackedFloat.add .binary64 u v) := by
  cases u with
  | notANumber => cases hp
  | infinity s => cases hp
  | zero s =>
    cases v with
    | notANumber => cases hq
    | infinity s' => cases hq
    | zero s' =>
      refine .inl ?_
      show Fits (if s == s' then .zero s else .zero .positive)
      split <;> trivial
    | finite s' m e hm => exact .inl hv
  | finite s m e hm =>
    cases v with
    | notANumber => cases hq
    | infinity s' => cases hq
    | zero s' => exact .inl hu
    | finite s' m' e' hm' =>
      cases hp
      cases hq
      rw [← scaled_shiftLeft s m (Int.min_le_left e e'),
        ← scaled_shiftLeft s' m' (Int.min_le_right e e'), ← scaled_add] at h
      exact fits_normalize h

/-- **To an amount that is not infinite, a reading below `2 ^ 970` adds up to no infinity.** -/
theorem add_ne_infinite {x y : Float} {p : ℚ} (hx : Quantity.ofFloat x = .finite p)
    (hp : p < halfGap) (hy : Quantity.ofFloat y ≠ .infinite false) :
    Quantity.ofFloat (x + y) ≠ .infinite false := by
  have hsum : (x + y).toModel
      = Float.Model.pack (UnpackedFloat.add .binary64 x.toModel.unpack y.toModel.unpack) := rfl
  have huFits := (fits_unpack hx).1
  rw [ofFloat_eq, hsum]
  have hu := hx
  rw [ofFloat_eq] at hu
  cases hq : Quantity.ofFloat y with
  | finite q =>
    obtain ⟨hvFits, hle⟩ := fits_unpack hq
    rw [ofFloat_eq] at hq
    have hsmall : p + q < (2 ^ 54 - 1) * halfGap := by
      calc p + q < halfGap + (2 ^ 53 - 1) * (2 * halfGap) := add_lt_add_of_lt_of_le hp hle
        _ = (2 ^ 54 - 1) * halfGap := by ring
    obtain hfits | habove := fits_add huFits hvFits hu hq hsmall
    · obtain ⟨r, hr⟩ := hfits.pack
      rw [hr]
      simp
    · intro h
      have := habove.pack.le_zero
      rw [h] at this
      cases this
  | infinite negative =>
    rw [← hsum, ← ofFloat_eq, ofFloat_add_infinite hx hq, ← hq]
    exact hy
  | undefined =>
    intro h
    have hsame : (Quantity.ofFloat (x + y)).isDefined = (Quantity.ofFloat y).isDefined :=
      isDefined_add hx
    rw [ofFloat_eq, hsum, h, hq] at hsame
    cases hsame

end TimedLock.Number
