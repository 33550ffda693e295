/-!
# Bit patterns of doubles

A double is 64 bits: a sign, eleven bits of exponent and 52 bits of fraction. The bits without the
sign are the *pattern* of its magnitude, and patterns are ordered as magnitudes are. `parts` takes
a double apart, `ofPattern` makes one, and `parts_ofPattern` says what it is made of.
-/

namespace TimedLock.Number

/-! ## Powers -/

/-- Two to the power `k`. -/
def twoTo (k : Nat) : Nat := Nat.pow 2 k

/-- Ten to the power `k`. -/
def tenTo (k : Nat) : Nat := Nat.pow 10 k

theorem twoTo_pos (k : Nat) : 0 < twoTo k := Nat.pow_pos (by decide)

theorem tenTo_pos (k : Nat) : 0 < tenTo k := Nat.pow_pos (by decide)

/-- How many fractions there are for an exponent: `2 ^ 52`. -/
def fractions : Nat := 0x10000000000000

/-- The weight of the sign among the bits of a double: `2 ^ 63`. -/
def signWeight : Nat := 0x8000000000000000

/-- The exponent field of the doubles that are not finite. -/
def topField : Nat := 2047

/-! ## Taking a double apart -/

/-- The parts of a double. A finite double is `mantissa · 2 ^ exponent` with its sign; one without
an exponent is infinite if its mantissa is zero, and otherwise no number at all. -/
structure Parts where
  negative : Bool
  mantissa : Nat
  exponent : Option Int
deriving DecidableEq, Repr

/-- The parts of a sign and a magnitude's pattern. -/
def partsOf (negative : Bool) (pattern : Nat) : Parts :=
  let field : Nat := pattern / fractions
  let fraction := pattern % fractions
  if field = topField then ⟨negative, fraction, none⟩
  else if field = 0 then ⟨negative, fraction, some (-1074)⟩
  else ⟨negative, fraction + fractions, some ((field : Int) - 1075)⟩

/-- The parts of a double. -/
def parts (x : Float) : Parts :=
  let bits : Nat := x.toBits.toNat
  partsOf (decide (signWeight ≤ bits)) (bits % signWeight)

/-! ## Making a double -/

/-- The first pattern that no finite double has. -/
def patternLimit : Nat := topField * fractions

theorem patternLimit_pos : 0 < patternLimit := by decide

/-- The bits of a sign and a pattern. -/
def signedBits (negative : Bool) (pattern : Nat) : UInt64 :=
  UInt64.ofNat (pattern + if negative then signWeight else 0)

theorem toNat_signedBits {negative : Bool} {pattern : Nat} (h : pattern < signWeight) :
    (signedBits negative pattern).toNat = pattern + if negative then signWeight else 0 := by
  unfold signWeight at h
  unfold signedBits signWeight
  rw [UInt64.toNat_ofNat', Nat.mod_eq_of_lt]
  cases negative <;> simp <;> omega

theorem exponent_signedBits {negative : Bool} {pattern : Nat} (h : pattern < patternLimit) :
    (signedBits negative pattern).toNat / fractions % 2048 ≠ topField := by
  unfold patternLimit topField fractions at h
  rw [toNat_signedBits (by unfold signWeight; omega)]
  unfold topField fractions signWeight
  cases negative <;> simp <;> omega

theorem toNat_unpackExponent (b : BitVec 64) :
    BitVec.toNat (w := 11)
      (@Float.Model.UnpackedFloat.unpackExponent Float.Model.Format.binary64 b)
      = b.toNat / fractions % 2048 := by
  have h : @Float.Model.UnpackedFloat.unpackExponent Float.Model.Format.binary64 b
      = b.extractLsb' 52 11 := rfl
  rw [h, BitVec.extractLsb'_toNat, Nat.shiftRight_eq_div_pow]
  rfl

/-- Bits whose exponent is not all ones are those of a double. -/
theorem valid_of_exponent {b : UInt64} (h : b.toNat / fractions % 2048 ≠ topField) :
    Float.Model.Format.binary64.Valid b.toBitVec := by
  constructor
  intro he
  refine absurd ?_ h
  rw [← UInt64.toNat_toBitVec, ← toNat_unpackExponent, he]
  rfl

/-- The finite double with a sign and a pattern. -/
def ofPattern (negative : Bool) (pattern : Nat) (h : pattern < patternLimit) : Float :=
  .ofModel ⟨signedBits negative pattern, valid_of_exponent (exponent_signedBits h)⟩

/-- An infinite double. -/
def infinity (negative : Bool) : Float := .ofBits (signedBits negative patternLimit)

/-- The double that is no number. -/
def undefinedFloat : Float := .ofBits (signedBits false (patternLimit + fractions / 2))

theorem toBits_ofPattern {negative : Bool} {pattern : Nat} (h : pattern < patternLimit) :
    (ofPattern negative pattern h).toBits = signedBits negative pattern := rfl

/-- A double that was made from a pattern has the parts of that pattern. -/
theorem parts_ofPattern {negative : Bool} {pattern : Nat} (h : pattern < patternLimit) :
    parts (ofPattern negative pattern h) = partsOf negative pattern := by
  have hl : pattern < signWeight := by
    unfold patternLimit topField fractions at h
    unfold signWeight
    omega
  unfold parts
  rw [toBits_ofPattern, toNat_signedBits hl]
  cases negative
  · simp only [Bool.false_eq_true, if_false, Nat.add_zero, Nat.mod_eq_of_lt hl]
    rw [decide_eq_false (by omega)]
  · simp only [if_true, Nat.add_mod_right, Nat.mod_eq_of_lt hl]
    rw [decide_eq_true (by omega)]

end TimedLock.Number
