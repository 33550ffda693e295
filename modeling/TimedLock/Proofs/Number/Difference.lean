import Mathlib
import TimedLock.Number.Quantity

/-!
# Differences of doubles

Deadlines are sums of doubles and the time left is a difference of doubles, so both round. Rounding
keeps the sign.

**Theorem (`sub_le_zero`).** The difference of two finite doubles in order is not above zero.

Adding zero rounds nothing (`ofFloat_add_zero`).

The operations are those of the binary64 model, which takes a double apart (`unpack`), computes
exactly, rounds, and puts the result together (`pack`). What a double stands for is read off its
bits (`Quantity.ofFloat`), and `ofFloat_eq` says that this is what `unpack` gives.
-/

namespace TimedLock.Number

open Float.Model Float.Model.UnpackedFloat

/-! ## Fields of bits -/

section Fields

variable (b : BitVec 64)

/-- The exponent field of bits. -/
def fieldOf : Nat := (@unpackExponent Format.binary64 b).toNat

/-- The fraction of bits. -/
def fractionOf : Nat := (@unpackMantissa Format.binary64 b).toNat

/-- The sign of bits. -/
def signOf : Sign := .ofBitVec (@unpackSign Format.binary64 b)

theorem fieldOf_eq : fieldOf b = b.toNat / fractions % 2048 := toNat_unpackExponent b

theorem fractionOf_eq : fractionOf b = b.toNat % fractions := by
  have h : @unpackMantissa Format.binary64 b = b.extractLsb' 0 52 := rfl
  unfold fractionOf
  rw [h, BitVec.extractLsb'_toNat]
  rfl

theorem fractionOf_lt : fractionOf b < fractions := (@unpackMantissa Format.binary64 b).isLt

theorem signOf_eq : signOf b = if signWeight ≤ b.toNat then .negative else .positive := by
  have h : @unpackSign Format.binary64 b = b.extractLsb' 63 1 := rfl
  have hbit : (@unpackSign Format.binary64 b).toNat = b.toNat / 2 ^ 63 % 2 := by
    rw [h, BitVec.extractLsb'_toNat, Nat.shiftRight_eq_div_pow]
  have hb := b.isLt
  have hzero : @unpackSign Format.binary64 b = 0#1 ↔ ¬ signWeight ≤ b.toNat := by
    rw [← BitVec.toNat_inj, hbit]
    unfold signWeight
    show b.toNat / 2 ^ 63 % 2 = 0 ↔ _
    omega
  unfold signOf Sign.ofBitVec
  by_cases hs : signWeight ≤ b.toNat
  · rw [if_pos hs, if_neg (fun h0 => hzero.1 h0 hs)]
  · rw [if_neg hs, if_pos (hzero.2 hs)]

theorem toNat_one_append (m : BitVec 52) : (1#1 ++ m).toNat = fractions + m.toNat := by
  rw [BitVec.toNat_append, ← Nat.shiftLeft_add_eq_or_of_lt m.isLt]
  rfl

/-- How bits are unpacked, by their fields. -/
inductive Unpacks : UnpackedFloat → Prop
  | infinity : fieldOf b = topField → fractionOf b = 0 → Unpacks (.infinity (signOf b))
  | notANumber : fieldOf b = topField → fractionOf b ≠ 0 → Unpacks .notANumber
  | zero : fieldOf b = 0 → fractionOf b = 0 → Unpacks (.zero (signOf b))
  | subnormal {m : Nat} {e : Int} {h : 0 < m} : fieldOf b = 0 → m = fractionOf b → e = -1074 →
      Unpacks (.finite (signOf b) m e h)
  | normal {m : Nat} {e : Int} {h : 0 < m} : fieldOf b ≠ topField → fieldOf b ≠ 0 →
      m = fractions + fractionOf b → e = (fieldOf b : Int) - 1075 →
      Unpacks (.finite (signOf b) m e h)

theorem unpacks : Unpacks b (UnpackedFloat.unpack Format.binary64 b) := by
  rw [UnpackedFloat.unpack]
  split
  next he =>
    have hfield : fieldOf b = topField := congrArg BitVec.toNat he
    split
    next hm => exact .infinity hfield (congrArg BitVec.toNat hm)
    next hm => exact .notANumber hfield fun h => hm (BitVec.eq_of_toNat_eq h)
  next he =>
    have hfield : fieldOf b ≠ topField := fun h => he (BitVec.eq_of_toNat_eq h)
    split
    next h0 =>
      have hzero : fieldOf b = 0 := congrArg BitVec.toNat h0
      split
      next hm => exact .zero hzero (congrArg BitVec.toNat hm)
      next hm =>
        refine .subnormal hzero rfl ?_
        show (fieldOf b : Int) - (1023 + 52) + 1 = -1074
        omega
    next h0 =>
      refine .normal hfield (fun h => h0 (BitVec.eq_of_toNat_eq h)) (toNat_one_append _) ?_
      show (fieldOf b : Int) - (1023 + 52) = (fieldOf b : Int) - 1075
      omega

end Fields

/-! ## What unpacked doubles stand for -/

/-- What an unpacked double stands for. -/
def Quantity.ofUnpacked : UnpackedFloat → Quantity
  | .notANumber => .undefined
  | .infinity s => .infinite (s == .negative)
  | .zero _ => .finite 0
  | .finite s m e _ => .finite (scaled (s.apply m) e)

theorem scaled_eq (m e : Int) : scaled m e = m * (2 : ℚ) ^ e := by
  unfold scaled
  by_cases he : 0 ≤ e
  · rw [if_pos he]
    obtain ⟨k, rfl⟩ := Int.eq_ofNat_of_zero_le he
    simp [twoTo]
  · rw [if_neg he]
    obtain ⟨k, hk⟩ := Int.eq_ofNat_of_zero_le (by omega : 0 ≤ -e)
    obtain rfl : e = -k := by omega
    rw [Rat.mkRat_eq_div, zpow_neg, zpow_natCast, ← div_eq_mul_inv]
    simp [twoTo]

theorem scaled_zero (e : Int) : scaled 0 e = 0 := by rw [scaled_eq, Int.cast_zero, zero_mul]

theorem scaled_apply (s : Sign) (m : Nat) (e : Int) :
    scaled (if (s == .negative) = true then -m else m) e = scaled (s.apply m) e := by
  cases s <;> rfl

/-- The parts of a pattern, given its exponent and its fraction. -/
theorem partsOf_fields (negative : Bool) (field : Nat) {fraction : Nat} (h : fraction < fractions) :
    partsOf negative (field * fractions + fraction)
      = if field = topField then ⟨negative, fraction, none⟩
        else if field = 0 then ⟨negative, fraction, some (-1074)⟩
        else ⟨negative, fraction + fractions, some ((field : Int) - 1075)⟩ := by
  have hfield : (field * fractions + fraction) / fractions = field := by
    rw [Nat.add_comm, Nat.add_mul_div_right _ _ (Nat.zero_lt_of_lt h), Nat.div_eq_of_lt h,
      Nat.zero_add]
  have hfraction : (field * fractions + fraction) % fractions = fraction := by
    rw [Nat.add_comm, Nat.add_mul_mod_self_right, Nat.mod_eq_of_lt h]
  unfold partsOf
  rw [hfield, hfraction]

/-- The parts of a double, by the fields of its bits. -/
theorem parts_eq (x : Float) :
    parts x = partsOf (signOf x.toModel.toBits.toBitVec == .negative)
      (fieldOf x.toModel.toBits.toBitVec * fractions + fractionOf x.toModel.toBits.toBitVec) := by
  have hlt := x.toModel.toBits.toBitVec.isLt
  show partsOf (decide (signWeight ≤ x.toModel.toBits.toBitVec.toNat))
    (x.toModel.toBits.toBitVec.toNat % signWeight) = _
  rw [signOf_eq, fractionOf_eq, fieldOf_eq]
  generalize x.toModel.toBits.toBitVec.toNat = bits at *
  have hpattern : bits % signWeight = bits / fractions % 2048 * fractions + bits % fractions := by
    unfold signWeight fractions
    omega
  rw [hpattern]
  by_cases hs : signWeight ≤ bits
  · rw [if_pos hs, decide_eq_true hs]
    rfl
  · rw [if_neg hs, decide_eq_false hs]
    rfl

/-- What a double stands for is what it is unpacked to. -/
theorem ofFloat_eq (x : Float) : Quantity.ofFloat x = .ofUnpacked x.toModel.unpack := by
  unfold Quantity.ofFloat
  rw [parts_eq, partsOf_fields _ _ (fractionOf_lt _)]
  have hu : Unpacks x.toModel.toBits.toBitVec x.toModel.unpack := unpacks _
  generalize x.toModel.unpack = u at hu
  cases hu with
  | infinity hfield hm =>
    rw [if_pos hfield, hm]
    rfl
  | notANumber hfield hm =>
    obtain ⟨k, hk⟩ := Nat.exists_eq_succ_of_ne_zero hm
    rw [if_pos hfield, hk]
    rfl
  | zero hfield hm =>
    rw [if_neg (by rw [hfield]; decide), if_pos hfield, hm]
    refine congrArg Quantity.finite ((scaled_apply _ 0 _).trans ?_)
    cases signOf x.toModel.toBits.toBitVec <;> exact scaled_zero _
  | subnormal hfield hm he =>
    rw [if_neg (by rw [hfield]; decide), if_pos hfield, ← hm, ← he]
    exact congrArg Quantity.finite (scaled_apply _ _ _)
  | normal hfield hne hm he =>
    rw [if_neg hfield, if_neg hne, Nat.add_comm, ← hm, ← he]
    exact congrArg Quantity.finite (scaled_apply _ _ _)

/-! ## Putting together what was taken apart -/

theorem signOf_toBitVec (b : BitVec 64) :
    (signOf b).toBitVec = @unpackSign Format.binary64 b := by
  unfold signOf
  generalize @unpackSign Format.binary64 b = v
  revert v
  decide

/-- Bits are put together from their fields. -/
theorem packComponents_fields {b : BitVec 64} {field : BitVec 11} {fraction : BitVec 52}
    (he : field.toNat = fieldOf b) (hm : fraction.toNat = fractionOf b) :
    packComponents .binary64 (signOf b) field fraction = b := by
  obtain rfl : field = @unpackExponent Format.binary64 b := BitVec.eq_of_toNat_eq he
  obtain rfl : fraction = @unpackMantissa Format.binary64 b := BitVec.eq_of_toNat_eq hm
  unfold packComponents
  rw [signOf_toBitVec]
  simp only [unpackSign, unpackExponent, unpackMantissa, BitVec.extractLsb]
  ext i hi
  grind

/-- How a finite double is packed: too large, with a leading bit that is not written, or without
one. -/
theorem pack_finite (s : Sign) (m : Nat) (e : Int) (h : 0 < m) :
    UnpackedFloat.pack .binary64 (.finite s m e h)
      = if 2048 ≤ (e + 1075).toNat + 1 then packedInfinity .binary64 s
        else if m.log2 = 52 then
          packComponents .binary64 s (.ofNat 11 (e + 1075).toNat) (.ofNat 52 m)
        else packComponents .binary64 s 0 (.ofNat 52 m) := by
  have hbias : e + 1023 + 52 = e + 1075 := by omega
  rw [← hbias, UnpackedFloat.pack]
  have hlog : m.log2 + 1 = Format.binary64.mantissaBits ↔ m.log2 = 52 := Nat.succ_inj
  simp only [hlog]
  rfl

/-- **A double that is unpacked and packed again is the same.** -/
theorem pack_unpack (x : Float.Model) : Float.Model.pack x.unpack = x := by
  have hx : UnpackedFloat.pack .binary64 x.unpack = x.toBits.toBitVec := by
    have hu : Unpacks x.toBits.toBitVec x.unpack := unpacks _
    have hvalid := x.valid
    generalize x.toBits.toBitVec = b at *
    have hlt := fractionOf_lt b
    have hfieldLt : fieldOf b < 2048 := (@unpackExponent Format.binary64 b).isLt
    unfold fractions at hlt
    generalize x.unpack = u at hu
    cases hu with
    | infinity hfield hm => exact packComponents_fields hfield.symm hm.symm
    | notANumber hfield hm =>
      refine (hvalid.eq_packedNaN (BitVec.eq_of_toNat_eq hfield) fun h => hm ?_).symm
      exact congrArg BitVec.toNat h
    | zero hfield hm => exact packComponents_fields hfield.symm hm.symm
    | @subnormal m e h hfield hm he =>
      have hlog : m.log2 ≠ 52 := by
        have := (Nat.log2_lt (Nat.ne_of_gt h)).2 (by omega : m < 2 ^ 52)
        omega
      rw [pack_finite, if_neg (by omega), if_neg hlog]
      refine packComponents_fields hfield.symm ?_
      rw [BitVec.toNat_ofNat]
      omega
    | @normal m e h hfield hne hm he =>
      unfold fractions at hm
      unfold topField at hfield
      have hlog : m.log2 = 52 := (Nat.log2_eq_iff (Nat.ne_of_gt h)).2 ⟨by omega, by omega⟩
      rw [pack_finite, if_neg (by omega), if_pos hlog]
      refine packComponents_fields ?_ ?_
      · rw [BitVec.toNat_ofNat]
        omega
      · rw [BitVec.toNat_ofNat]
        omega
  obtain ⟨bits, hv⟩ := x
  simp only [Float.Model.pack, hx]

/-! ## Signs -/

/-- Unpacked doubles that are numbers and not above zero. -/
def NotAbove : UnpackedFloat → Prop
  | .notANumber => False
  | .infinity s => s = .negative
  | .zero _ => True
  | .finite s _ _ _ => s = .negative

theorem signOf_packComponents (s : Sign) (field : BitVec 11) (fraction : BitVec 52) :
    signOf (packComponents .binary64 s field fraction) = s := by
  have h : @unpackSign Format.binary64 (packComponents .binary64 s field fraction)
      = s.toBitVec := by
    show (s.toBitVec ++ field ++ fraction).extractLsb' 63 1 = s.toBitVec
    rw [BitVec.extractLsb'_append_eq_of_le (by decide), BitVec.extractLsb'_append_eq_of_le (by decide)]
    cases s <;> rfl
  unfold signOf
  rw [h]
  cases s <;> rfl

/-- Bits with a negative sign are no number above zero. -/
theorem notAbove_of_signOf {b : BitVec 64} (hs : signOf b = .negative) (hf : fieldOf b ≠ topField) :
    NotAbove (UnpackedFloat.unpack .binary64 b) := by
  have hu := unpacks b
  generalize UnpackedFloat.unpack Format.binary64 b = u at hu
  cases hu with
  | infinity _ _ => exact hs
  | notANumber hfield _ => exact hf hfield
  | zero _ _ => trivial
  | subnormal _ _ _ => exact hs
  | normal _ _ _ _ => exact hs

/-- Packing keeps a double that is not above zero where it is. -/
theorem NotAbove.pack {u : UnpackedFloat} (h : NotAbove u) :
    NotAbove (Float.Model.pack u).unpack := by
  cases u with
  | notANumber => exact h
  | infinity s =>
    obtain rfl : s = .negative := h
    rfl
  | zero s => cases s <;> trivial
  | finite s m e hm =>
    obtain rfl : s = .negative := h
    show NotAbove (UnpackedFloat.unpack .binary64 (UnpackedFloat.pack .binary64 _))
    have hfield (field : BitVec 11) (fraction : BitVec 52) :
        fieldOf (packComponents .binary64 .negative field fraction) = field.toNat :=
      congrArg BitVec.toNat unpackExponent_packComponents
    rw [pack_finite]
    by_cases hlarge : 2048 ≤ (e + 1075).toNat + 1
    · rw [if_pos hlarge]
      rfl
    · rw [if_neg hlarge]
      by_cases hlog : m.log2 = 52
      · rw [if_pos hlog]
        refine notAbove_of_signOf (signOf_packComponents _ _ _) ?_
        rw [hfield, BitVec.toNat_ofNat]
        unfold topField
        omega
      · rw [if_neg hlog]
        refine notAbove_of_signOf (signOf_packComponents _ _ _) ?_
        rw [hfield]
        decide

theorem NotAbove.le_zero {u : UnpackedFloat} (h : NotAbove u) :
    (Quantity.ofUnpacked u).le .zero = true := by
  cases u with
  | notANumber => exact h.elim
  | infinity s =>
    obtain rfl : s = .negative := h
    rfl
  | zero s => rfl
  | finite s m e hm =>
    obtain rfl : s = .negative := h
    refine decide_eq_true ?_
    rw [scaled_eq]
    have : (0 : ℚ) ≤ m * 2 ^ e := by positivity
    simpa [Sign.apply] using this

/-! ## Differences and sums -/

/-- Rounding keeps the sign. -/
theorem notAbove_round (m : Nat) (e : Int) :
    NotAbove (UnpackedFloat.round .binary64 .negative m e) := by
  simp only [UnpackedFloat.round, UnpackedFloat.roundWithAccuracy]
  split
  · trivial
  · rfl

theorem notAbove_normalize {m : Int} (h : m ≤ 0) (e : Int) :
    NotAbove (UnpackedFloat.normalize .binary64 m e .positive) := by
  unfold UnpackedFloat.normalize
  split
  next => exact notAbove_round _ _
  next => trivial
  next hc =>
    have := Int.compare_eq_gt.1 hc
    omega

theorem apply_shiftLeft (s : Sign) (m k : Nat) : s.apply (m <<< k : Nat) = s.apply m * 2 ^ k := by
  rw [Nat.shiftLeft_eq]
  cases s <;> simp [Sign.apply]

/-- What is shifted to a smaller exponent stands for the same. -/
theorem scaled_shiftLeft (s : Sign) (m : Nat) {e low : Int} (h : low ≤ e) :
    scaled (s.apply (m <<< (e - low).toNat : Nat)) low = scaled (s.apply m) e := by
  rw [apply_shiftLeft, scaled_eq, scaled_eq]
  have he : ((e - low).toNat : Int) = e - low := Int.toNat_of_nonneg (by omega)
  push_cast
  rw [← zpow_natCast, he, mul_assoc, ← zpow_add₀ two_ne_zero, sub_add_cancel]

theorem scaled_le_iff (m n e : Int) : scaled m e ≤ scaled n e ↔ m ≤ n := by
  rw [scaled_eq, scaled_eq, mul_le_mul_iff_left₀ (by positivity), Int.cast_le]

theorem eq_negative_of_le_zero {s : Sign} {m : Nat} {e : Int} (hm : 0 < m)
    (h : scaled (s.apply m) e ≤ 0) : s = .negative := by
  rw [← scaled_zero e, scaled_le_iff] at h
  cases s with
  | negative => rfl
  | positive =>
    have : (m : Int) ≤ 0 := h
    omega

theorem eq_positive_of_zero_le {s : Sign} {m : Nat} {e : Int} (hm : 0 < m)
    (h : 0 ≤ scaled (s.apply m) e) : s = .positive := by
  rw [← scaled_zero e, scaled_le_iff] at h
  cases s with
  | positive => rfl
  | negative =>
    have : (0 : Int) ≤ -(m : Int) := h
    omega

/-- A finite double that is at most another leaves nothing above zero when that is taken away. -/
theorem notAbove_sub {u v : UnpackedFloat} {p q : ℚ} (hu : Quantity.ofUnpacked u = .finite p)
    (hv : Quantity.ofUnpacked v = .finite q) (h : p ≤ q) :
    NotAbove (UnpackedFloat.sub .binary64 u v) := by
  cases u with
  | notANumber => cases hu
  | infinity s => cases hu
  | zero s =>
    cases hu
    cases v with
    | notANumber => cases hv
    | infinity s' => cases hv
    | zero s' =>
      show NotAbove (if (s == -s') = true then .zero s else .zero .positive)
      split <;> trivial
    | finite s' m e hm =>
      cases hv
      cases eq_positive_of_zero_le hm h
      rfl
  | finite s m e hm =>
    cases hu
    cases v with
    | notANumber => cases hv
    | infinity s' => cases hv
    | zero s' =>
      cases hv
      exact eq_negative_of_le_zero hm h
    | finite s' m' e' hm' =>
      cases hv
      refine notAbove_normalize ?_ _
      rw [← scaled_shiftLeft s m (Int.min_le_left e e'),
        ← scaled_shiftLeft s' m' (Int.min_le_right e e'), scaled_le_iff] at h
      exact Int.sub_nonpos_of_le h

/-- **The difference of two finite doubles in order is not above zero.** -/
theorem sub_le_zero {x y : Float} {p q : ℚ} (hx : Quantity.ofFloat x = .finite p)
    (hy : Quantity.ofFloat y = .finite q) (h : p ≤ q) :
    (Quantity.ofFloat (x - y)).le .zero = true := by
  rw [ofFloat_eq] at hx hy ⊢
  exact (notAbove_sub hx hy h).pack.le_zero

/-- The double zero. -/
def zeroFloat : Float := ofPattern false 0 patternLimit_pos

/-- Adding zero to a finite double changes nothing that it stands for. -/
theorem ofFloat_add_zero {x : Float} {p : ℚ} (hx : Quantity.ofFloat x = .finite p) :
    Quantity.ofFloat (x + zeroFloat) = .finite p := by
  rw [ofFloat_eq] at hx ⊢
  have hsum : (x + zeroFloat).toModel
      = Float.Model.pack (UnpackedFloat.add .binary64 x.toModel.unpack (.zero .positive)) := rfl
  have hpack : (Float.Model.pack x.toModel.unpack).unpack = x.toModel.unpack :=
    congrArg Float.Model.unpack (pack_unpack x.toModel)
  rw [hsum]
  generalize x.toModel.unpack = u at *
  cases u with
  | notANumber => cases hx
  | infinity s => cases hx
  | zero s =>
    cases hx
    cases s <;> rfl
  | finite s m e hm => exact (congrArg Quantity.ofUnpacked hpack).trans hx

end TimedLock.Number
