import Mathlib
import SignalGraph.Decimal.Binary

/-!
The bits of a double: its sign, the field of its exponent and the field of its fraction. They say
what the double is when it is taken apart, whether it is finite, and they make it up again.
-/

namespace SignalGraph.Decimal

open Float.Model

section Fields

/-- The first bit. -/
def signBit (x : Float) : Bool := Nat.pow 2 63 ≤ x.toBits.toNat

/-- The next eleven bits. -/
def exponentField (x : Float) : Nat := x.toBits.toNat / Nat.pow 2 52 % Nat.pow 2 11

/-- The last 52 bits. -/
def fractionField (x : Float) : Nat := x.toBits.toNat % Nat.pow 2 52

variable (x : Float)

theorem exponentField_lt : exponentField x < Nat.pow 2 11 := Nat.mod_lt _ (by decide)

theorem fractionField_lt : fractionField x < Nat.pow 2 52 := Nat.mod_lt _ (by decide)

theorem toBits_eq_fields :
    x.toBits.toNat = (if signBit x then Nat.pow 2 63 else 0) + exponentField x * Nat.pow 2 52 +
      fractionField x := by
  have bound := x.toBits.toNat_lt
  simp only [signBit, exponentField, fractionField, Nat.pow_eq, Nat.reducePow,
    decide_eq_true_eq] at bound ⊢
  split <;> omega

theorem Parts.ofFloat_eq :
    Parts.ofFloat x =
      if exponentField x = Nat.pow 2 11 - 1 then
        if fractionField x = 0 then .infinite (signBit x) else .notANumber
      else if exponentField x = 0 then .finite (signBit x) (fractionField x) (-1074)
      else .finite (signBit x) (fractionField x + Nat.pow 2 52) ((exponentField x : Int) - 1075) :=
  rfl

end Fields

section Unpacking

variable (x : Float)

/-- The bits of a double as the vector that its model cuts into fields. -/
def bitsOf : BitVec Format.binary64.numBits := x.toModel.toBits.toBitVec

theorem unpackExponent_toNat :
    (UnpackedFloat.unpackExponent (bitsOf x)).toNat = exponentField x := by
  simp only [UnpackedFloat.unpackExponent, BitVec.toNat_cast, BitVec.extractLsb_toNat,
    Nat.shiftRight_eq_div_pow]
  rfl

theorem unpackMantissa_toNat :
    (UnpackedFloat.unpackMantissa (bitsOf x)).toNat = fractionField x := by
  simp only [UnpackedFloat.unpackMantissa, BitVec.toNat_cast, BitVec.extractLsb_toNat,
    Nat.shiftRight_zero]
  rfl

theorem unpackExponent_eq_top :
    UnpackedFloat.unpackExponent (bitsOf x) = -1#11 ↔ exponentField x = Nat.pow 2 11 - 1 := by
  rw [← unpackExponent_toNat]
  exact BitVec.toNat_inj.symm

/-- A double is finite unless the field of its exponent is full. -/
theorem isFinite_iff : x.isFinite ↔ exponentField x ≠ Nat.pow 2 11 - 1 := by
  rw [Ne, ← unpackExponent_eq_top]
  simp only [Float.isFinite, Float.Model.isFinite, Float.Model.unpack, UnpackedFloat.unpack]
  split
  · rename_i full
    split <;> exact iff_of_false Bool.false_ne_true (not_not_intro full)
  · rename_i ordinary
    split
    · split <;> exact iff_of_true rfl ordinary
    · exact iff_of_true rfl ordinary

/-- The finite doubles are those that have an integer part. -/
theorem truncate?_isSome_iff : (truncate? x).isSome ↔ x.isFinite := by
  rw [isFinite_iff]
  simp only [truncate?, Parts.ofFloat_eq]
  by_cases full : exponentField x = Nat.pow 2 11 - 1
  · rw [if_pos full]
    by_cases zero : fractionField x = 0
    · rw [if_pos zero]
      exact iff_of_false Bool.false_ne_true (not_not_intro full)
    · rw [if_neg zero]
      exact iff_of_false Bool.false_ne_true (not_not_intro full)
  · rw [if_neg full]
    by_cases zero : exponentField x = 0
    · rw [if_pos zero]
      exact iff_of_true rfl full
    · rw [if_neg zero]
      exact iff_of_true rfl full

end Unpacking

section Repacking

variable (x : Float)

/-- A double that is no number has the one pattern for it. -/
theorem notANumber_of_parts (h : Parts.ofFloat x = .notANumber) : notANumber = x := by
  rw [Parts.ofFloat_eq] at h
  split at h
  · rename_i full
    split at h
    · cases h
    · rename_i payload
      have positive : UnpackedFloat.unpackMantissa (bitsOf x) ≠ 0#_ := by
        intro zero
        apply payload
        rw [← unpackMantissa_toNat, zero]
        rfl
      have pattern := x.toModel.valid.eq_packedNaN ((unpackExponent_eq_top x).mpr full) positive
      apply Float.toBits_inj.mp
      have target : notANumber.toBits = UInt64.ofBitVec (UnpackedFloat.packedNaN .binary64) := by
        decide +kernel
      rw [target]
      exact (congrArg UInt64.ofBitVec pattern).symm
  · split at h <;> cases h

/-- The bits that make up a double from its fields. -/
theorem ofBits_of_fields {bits : Nat}
    (h : (if signBit x then Nat.pow 2 63 else 0) + exponentField x * Nat.pow 2 52 +
      fractionField x = bits) : Float.ofBits (.ofNat bits) = x := by
  rw [← h, ← toBits_eq_fields, UInt64.ofNat_toNat, Float.ofBits_toBits]

theorem infinity_of_parts {negative : Bool} (h : Parts.ofFloat x = .infinite negative) :
    infinity negative = x := by
  rw [Parts.ofFloat_eq] at h
  split at h
  · rename_i full
    split at h
    · rename_i zero
      obtain rfl := Parts.infinite.inj h
      apply ofBits_of_fields
      rw [full, zero, Nat.add_zero]
    · cases h
  · split at h <;> cases h

/-- The mantissa and the exponent of a double. A mantissa without its leading bit has the least
exponent. -/
structure InDouble (mantissa : Nat) (exponent : Int) : Prop where
  mantissa_lt : mantissa < 2 ^ 53
  least : -1074 ≤ exponent
  greatest : exponent ≤ 971
  leading : 2 ^ 52 ≤ mantissa ∨ exponent = -1074

theorem inDouble_of_parts {negative : Bool} {mantissa : Nat} {exponent : Int}
    (h : Parts.ofFloat x = .finite negative mantissa exponent) : InDouble mantissa exponent := by
  have field := exponentField_lt x
  have fraction := fractionField_lt x
  rw [Parts.ofFloat_eq] at h
  simp only [Nat.pow_eq, Nat.reducePow] at h field fraction
  split at h
  · split at h <;> cases h
  · rename_i ordinary
    split at h
    · obtain ⟨-, rfl, rfl⟩ := Parts.finite.inj h
      exact ⟨by omega, by omega, by omega, .inr rfl⟩
    · obtain ⟨-, rfl, rfl⟩ := Parts.finite.inj h
      exact ⟨by omega, by omega, by omega, .inl (by omega)⟩

/-- The parts of a finite double make it up again. -/
theorem composeBits_of_parts {negative : Bool} {mantissa : Nat} {exponent : Int}
    (h : Parts.ofFloat x = .finite negative mantissa exponent) :
    Float.ofBits (.ofNat (composeBits negative mantissa exponent)) = x := by
  have fraction := fractionField_lt x
  apply ofBits_of_fields
  rw [Parts.ofFloat_eq] at h
  simp only [Nat.pow_eq, Nat.reducePow] at h fraction
  simp only [composeBits, Nat.pow_eq, Nat.reducePow]
  split at h
  · split at h <;> cases h
  · split at h
    · rename_i least
      obtain ⟨rfl, rfl, rfl⟩ := Parts.finite.inj h
      rw [if_pos fraction, least]
      omega
    · obtain ⟨rfl, rfl, rfl⟩ := Parts.finite.inj h
      have leading : ¬ fractionField x + 4503599627370496 < 4503599627370496 := by omega
      rw [if_neg leading]
      omega

theorem composeBits_zero (negative : Bool) (exponent : Int) :
    Float.ofBits (.ofNat (composeBits negative 0 exponent)) = zero negative := by
  rw [composeBits, if_pos (show 0 < Nat.pow 2 52 by decide), Nat.add_zero, zero]

end Repacking

end SignalGraph.Decimal
