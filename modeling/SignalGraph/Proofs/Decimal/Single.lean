import SignalGraph.Proofs.Decimal.Exact

/-!
What a double loses when its fraction is cut off, or when it is rounded to single precision. Both
are computed from its parts, which give the rational number that it stands for.
-/

namespace SignalGraph.Decimal

open Float.Model

section Parts

/-- The parts of an unpacked double. -/
def Parts.ofUnpacked : UnpackedFloat → Parts
  | .notANumber => .notANumber
  | .infinity s => .infinite (s == .negative)
  | .zero s => .finite (s == .negative) 0 (-1074)
  | .finite s m e _ => .finite (s == .negative) m e

variable (x : Float)

theorem unpackSign_eq :
    (UnpackedFloat.Sign.ofBitVec (UnpackedFloat.unpackSign (bitsOf x)) == .negative) =
      signBit x := by
  have bound := x.toBits.toNat_lt
  have first : (UnpackedFloat.unpackSign (bitsOf x)).toNat = x.toBits.toNat / 2 ^ 63 % 2 := by
    simp only [UnpackedFloat.unpackSign, BitVec.toNat_cast, BitVec.extractLsb_toNat,
      Nat.shiftRight_eq_div_pow]
    rfl
  have negative (v : BitVec 1) :
      (UnpackedFloat.Sign.ofBitVec v == .negative) = true ↔ v.toNat = 1 := by
    revert v
    decide
  rw [Bool.eq_iff_iff, negative, first, signBit, decide_eq_true_iff, Nat.pow_eq]
  omega

/-- The bits of a double and its model say the same. -/
theorem Parts.ofFloat_eq_view : Parts.ofFloat x = .ofUnpacked (view x) := by
  have bias : ((Format.binary64.exponentBias : Nat) : Int) = 1023 := rfl
  have width : ((Format.binary64.mantissaBitsWithoutImplicit : Nat) : Int) = 52 := rfl
  have sign := unpackSign_eq x
  have mantissa := unpackMantissa_toNat x
  have exponent := unpackExponent_toNat x
  have none_iff : UnpackedFloat.unpackMantissa (bitsOf x) = 0#52 ↔ fractionField x = 0 := by
    rw [← mantissa]
    exact BitVec.toNat_inj.symm
  have least_iff : UnpackedFloat.unpackExponent (bitsOf x) = 0#11 ↔ exponentField x = 0 := by
    rw [← exponent]
    exact BitVec.toNat_inj.symm
  have full_iff : UnpackedFloat.unpackExponent (bitsOf x) = -1#11 ↔ _ := unpackExponent_eq_top x
  show _ = Parts.ofUnpacked (UnpackedFloat.unpack .binary64 (bitsOf x))
  rw [Parts.ofFloat_eq, UnpackedFloat.unpack]
  by_cases full : exponentField x = Nat.pow 2 11 - 1
  · rw [if_pos full, if_pos (full_iff.mpr full)]
    by_cases none : fractionField x = 0
    · rw [if_pos none, if_pos (none_iff.mpr none), Parts.ofUnpacked, sign]
    · rw [if_neg none, if_neg (mt none_iff.mp none), Parts.ofUnpacked]
  · rw [if_neg full, if_neg (mt full_iff.mp full)]
    by_cases least : exponentField x = 0
    · rw [if_pos least, if_pos (least_iff.mpr least)]
      by_cases none : fractionField x = 0
      · rw [dif_pos (none_iff.mpr none), Parts.ofUnpacked, sign, none]
      · rw [dif_neg (mt none_iff.mp none), Parts.ofUnpacked, sign, mantissa, exponent, least, bias,
          width]
        rfl
    · have leading : (1#1 ++ UnpackedFloat.unpackMantissa (bitsOf x)).toNat =
          fractionField x + Nat.pow 2 52 := by
        rw [BitVec.toNat_append, ← Nat.shiftLeft_add_eq_or_of_lt (BitVec.isLt _), mantissa,
          Nat.add_comm]
        rfl
      rw [if_neg least, if_neg (mt least_iff.mp least), Parts.ofUnpacked, sign, exponent, bias,
        width, leading]
      rfl

/-- The number with a sign and a size. -/
def signed (negative : Bool) (size : ℚ) : ℚ := if negative then -size else size

@[simp] theorem signed_zero (negative : Bool) : signed negative 0 = 0 := by
  cases negative <;> simp [signed]

theorem signed_neg_iff (negative : Bool) {size : ℚ} (pos : 0 < size) :
    decide (signed negative size < 0) = negative := by
  cases negative <;> simp [signed, pos, pos.le]

theorem abs_signed (negative : Bool) {size : ℚ} (nonneg : 0 ≤ size) :
    |signed negative size| = size := by
  cases negative <;> simp [signed, abs_of_nonneg nonneg]

variable {x} {q : ℚ}

/-- A double stands for the number that its parts make up. -/
theorem standsFor_iff :
    StandsFor x q ↔
      ∃ negative m e, Parts.ofFloat x = .finite negative m e ∧ q = signed negative (m * 2 ^ e) := by
  rw [StandsFor, Parts.ofFloat_eq_view, valueOf?_eq_some]
  constructor
  · rintro (⟨s, same, rfl⟩ | ⟨s, m, e, pos, same, rfl⟩)
    · exact ⟨_, 0, -1074, congrArg Parts.ofUnpacked same, by rw [Nat.cast_zero, zero_mul, signed_zero]⟩
    · refine ⟨_, m, e, congrArg Parts.ofUnpacked same, ?_⟩
      cases s <;> simp [signed, UnpackedFloat.Sign.apply]
  · rintro ⟨negative, m, e, parts, rfl⟩
    cases unpacked : view x with
    | notANumber => rw [unpacked] at parts; cases parts
    | infinity s => rw [unpacked] at parts; cases parts
    | zero s => 
        rw [unpacked] at parts
        obtain ⟨-, rfl, -⟩ := Parts.finite.inj parts
        exact .inl ⟨s, rfl, by rw [Nat.cast_zero, zero_mul, signed_zero]⟩
    | finite s m' e' pos => 
        rw [unpacked] at parts
        obtain ⟨rfl, rfl, rfl⟩ := Parts.finite.inj parts
        refine .inr ⟨s, _, _, pos, rfl, ?_⟩
        cases s <;> simp [signed, UnpackedFloat.Sign.apply]

theorem standsFor_of_parts {negative : Bool} {m : Nat} {e : Int}
    (parts : Parts.ofFloat x = .finite negative m e) :
    StandsFor x q ↔ q = signed negative (m * 2 ^ e) := by
  rw [standsFor_iff, parts]
  constructor
  · rintro ⟨_, _, _, same, rfl⟩
    cases same
    rfl
  · exact fun same => ⟨_, _, _, rfl, same⟩

end Parts

section Wholes

/-- A number without its fraction. -/
def cutOff (q : ℚ) : Int := if 0 ≤ q then ⌊q⌋ else ⌈q⌉

theorem cutOff_signed (negative : Bool) {size : ℚ} (nonneg : 0 ≤ size) :
    cutOff (signed negative size) = if negative then -⌊size⌋ else ⌊size⌋ := by
  cases negative with
  | false => exact if_pos nonneg
  | true =>
      rcases nonneg.eq_or_lt with rfl | pos
      · simp [cutOff, signed]
      · rw [cutOff, signed, if_pos rfl, if_neg (by linarith), Int.ceil_neg, if_pos rfl]

/-- A double has an integer part if it stands for a number, namely that of the number. -/
theorem truncate?_eq_some_iff {x : Float} {n : Int} :
    truncate? x = some n ↔ ∃ q, StandsFor x q ∧ cutOff q = n := by
  rw [truncate?]
  cases parts : Parts.ofFloat x with
  | notANumber => simp [standsFor_iff, parts]
  | infinite negative => simp [standsFor_iff, parts]
  | finite negative m e =>
      have nonneg : (0 : ℚ) ≤ m * 2 ^ e := by positivity
      have whole : ⌊(m * 2 ^ e : ℚ)⌋ = ((dyadic m e).1 / (dyadic m e).2 : Nat) := by
        rw [← dyadic_value, Rat.floor_natCast_div_natCast]
        rfl
      simp only [standsFor_of_parts parts, exists_eq_left, cutOff_signed negative nonneg, whole,
        Option.some.injEq]

end Wholes

section Rounding

theorem standsFor_zero_signed (negative : Bool) : StandsFor (zero negative) 0 := by
  have parts : Parts.ofFloat (zero negative) = .finite negative 0 (-1074) := by
    cases negative <;> decide +kernel
  rw [standsFor_of_parts parts, Nat.cast_zero, zero_mul, signed_zero]

/-- The bits that are made up of a mantissa and an exponent stand for their number. -/
theorem standsFor_composeBits (negative : Bool) {m : Nat} {e : Int} (double : InDouble m e) :
    StandsFor (.ofBits (.ofNat (composeBits negative m e))) (signed negative (m * 2 ^ e)) := by
  rcases Nat.eq_zero_or_pos m with rfl | pos
  · rw [composeBits_zero, Nat.cast_zero, zero_mul, signed_zero]
    exact standsFor_zero_signed negative
  · let s : UnpackedFloat.Sign := if negative then .negative else .positive
    have sign : (s == .negative) = negative := by cases negative <;> rfl
    let x := Float.ofModel (pack (.finite s m e pos))
    have parts : Parts.ofFloat x = .finite negative m e := by
      rw [Parts.ofFloat_eq_view, show view x = _ from double.unpack_pack pos s, Parts.ofUnpacked,
        sign]
    rw [composeBits_of_parts x parts, standsFor_of_parts parts]

/-- Rounding to a double is exact where a double is given. -/
theorem standsFor_nearestDouble (negative : Bool) {m : Nat} {e : Int} (small : m < 2 ^ 53)
    (least : -1074 ≤ e) (greatest : e ≤ 971) :
    StandsFor (nearestDouble negative (dyadic m e).1 (dyadic m e).2)
      (signed negative (m * 2 ^ e)) := by
  have value := dyadic_value m e
  have hden := dyadic_pos m e
  obtain ⟨m', e', holds, same⟩ := BinaryFormat.double.exists_holds small least greatest
  rcases Nat.eq_zero_or_pos (dyadic m e).1 with none | hnum
  · rw [none, Nat.cast_zero, zero_div] at value
    rw [← value, none, signed_zero]
    exact standsFor_zero_signed negative
  · cases found : BinaryFormat.double.nearest (dyadic m e).1 (dyadic m e).2 with
    | none =>
        have reached := (BinaryFormat.double.nearest_eq_none_iff hnum hden (by decide)
          (by decide)).mp found
        rw [value, ← same] at reached
        exact absurd holds.value_lt (not_lt.mpr reached)
    | some rounded =>
        obtain ⟨n, f⟩ := rounded
        have closest := BinaryFormat.double.nearest_closest hnum hden (by decide) found
        have exact := closest.le m' e' holds
        rw [value, same, sub_self, abs_zero, abs_nonpos_iff, sub_eq_zero] at exact
        rw [nearestDouble, nearestDouble?, if_neg hnum.ne', found, ← exact]
        exact standsFor_composeBits negative (inDouble_iff.mpr closest.holds)

/-- Zero is closest to itself. -/
theorem closest_zero : BinaryFormat.single.Closest 0 0 (-149) := by
  have holds : BinaryFormat.single.Holds 0 (-149) := ⟨by decide, by decide, by decide, .inr rfl⟩
  refine ⟨holds, fun m e _ => ?_, fun _ _ _ _ => .inr rfl⟩
  rw [Nat.cast_zero, zero_mul, sub_zero, abs_zero]
  exact abs_nonneg _

/-- A double that stands for a number is rounded to the closest number in single precision, or to
an infinite one from the middle between the greatest of them and the power of two behind it on. -/
theorem toSingle_of_standsFor {x : Float} {q : ℚ} (h : StandsFor x q) :
    (∃ m e, BinaryFormat.single.Closest |q| m e ∧
      StandsFor (toSingle x) (signed (q < 0) (m * 2 ^ e))) ∨
    ((2 : ℚ) ^ 24 - 1 / 2) * 2 ^ (104 : Int) ≤ |q| ∧ toSingle x = infinity (q < 0) := by
  obtain ⟨negative, m, e, parts, rfl⟩ := standsFor_iff.mp h
  have nonneg : (0 : ℚ) ≤ m * 2 ^ e := by positivity
  rw [abs_signed negative nonneg, toSingle, parts]
  rcases Nat.eq_zero_or_pos m with rfl | pos
  · left
    refine ⟨0, -149, ?_, ?_⟩
    · rw [Nat.cast_zero, zero_mul]
      exact closest_zero
    · simp only [↓reduceIte, Nat.cast_zero, zero_mul, signed_zero]
      exact standsFor_zero_signed negative
  · have value := dyadic_value m e
    have hden := dyadic_pos m e
    have positive : (0 : ℚ) < m * 2 ^ e := by positivity
    have hnum : 0 < (dyadic m e).1 := by
      rw [Nat.pos_iff_ne_zero]
      intro zero
      rw [zero, Nat.cast_zero, zero_div] at value
      exact positive.ne value
    simp only [pos.ne', ↓reduceIte, signed_neg_iff negative positive]
    rw [← value]
    cases found : BinaryFormat.single.nearest (dyadic m e).1 (dyadic m e).2 with
    | none =>
        right
        exact ⟨(BinaryFormat.single.nearest_eq_none_iff hnum hden (by decide) (by decide)).mp found,
          rfl⟩
    | some rounded =>
        obtain ⟨n, f⟩ := rounded
        have closest := BinaryFormat.single.nearest_closest hnum hden (by decide) found
        left
        refine ⟨n, f, closest, ?_⟩
        have small : n < 2 ^ 24 := closest.holds.mantissa_lt
        have least : -149 ≤ f := closest.holds.least
        have greatest : f ≤ 104 := closest.holds.greatest
        exact standsFor_nearestDouble negative (by omega) (by omega) (by omega)

/-- What stands for no number stays as it is. -/
theorem toSingle_of_not_standsFor {x : Float} (none : ∀ q, ¬StandsFor x q) : toSingle x = x := by
  rw [toSingle]
  cases parts : Parts.ofFloat x with
  | notANumber => exact notANumber_of_parts x parts
  | infinite negative => exact infinity_of_parts x parts
  | finite negative m e => exact absurd ((standsFor_of_parts parts).mpr rfl) (none _)

/-- What a double is in single precision: the closest number, an infinite one if it is too great,
and itself if it stands for no number. -/
inductive Rounds (x : Float) : Float → Prop where
  | closest {q : ℚ} {m : Nat} {e : Int} {y : Float} (stands : StandsFor x q)
      (closest : BinaryFormat.single.Closest |q| m e)
      (result : StandsFor y (signed (q < 0) (m * 2 ^ e))) : Rounds x y
  | infinite {q : ℚ} (stands : StandsFor x q)
      (great : ((2 : ℚ) ^ 24 - 1 / 2) * 2 ^ (104 : Int) ≤ |q|) : Rounds x (infinity (q < 0))
  | same (none : ∀ q, ¬StandsFor x q) : Rounds x x

theorem rounds_toSingle (x : Float) : Rounds x (toSingle x) := by
  by_cases number : ∃ q, StandsFor x q
  · obtain ⟨q, stands⟩ := number
    rcases toSingle_of_standsFor stands with ⟨m, e, closest, result⟩ | ⟨great, result⟩
    · exact .closest stands closest result
    · rw [result]
      exact .infinite stands great
  · have none : ∀ q, ¬StandsFor x q := not_exists.mp number
    rw [toSingle_of_not_standsFor none]
    exact .same none

end Rounding

end SignalGraph.Decimal
