import SignalGraph.Proofs.Decimal.Shortest

/-!
Rounding to any binary format. Of all numbers of the format the result is closest to what is
rounded, and of two that are equally close it is the one with the even mantissa.
-/

namespace SignalGraph.Decimal

section Formats

/-- A number of a format. A mantissa without its leading bit has the least exponent. -/
structure BinaryFormat.Holds (format : BinaryFormat) (mantissa : Nat) (exponent : Int) : Prop where
  mantissa_lt : mantissa < 2 ^ format.precision
  least : format.least ≤ exponent
  greatest : exponent ≤ format.greatest
  leading : 2 ^ (format.precision - 1) ≤ mantissa ∨ exponent = format.least

/-- A number of a format is closest to a rational: all others are farther away, or as far, and then
its mantissa is even. -/
structure BinaryFormat.Closest (format : BinaryFormat) (q : ℚ) (mantissa : Nat) (exponent : Int) :
    Prop where
  holds : format.Holds mantissa exponent
  le : ∀ m e, format.Holds m e → |mantissa * 2 ^ exponent - q| ≤ |m * 2 ^ e - q|
  ties : ∀ m e, format.Holds m e → |mantissa * 2 ^ exponent - q| = |m * 2 ^ e - q| →
    (m * 2 ^ e : ℚ) = mantissa * 2 ^ exponent ∨ mantissa % 2 = 0

/-- Zeros behind a mantissa make it one of the format. -/
theorem BinaryFormat.exists_holds (format : BinaryFormat) {m : Nat} {e : Int}
    (small : m < 2 ^ format.precision) (least : format.least ≤ e) (greatest : e ≤ format.greatest) :
    ∃ m' e', format.Holds m' e' ∧ (m' * 2 ^ e' : ℚ) = m * 2 ^ e := by
  -- as long as the exponent is not the least, one more zero can follow
  obtain ⟨zeros, rfl⟩ : ∃ zeros : Nat, e = format.least + zeros :=
    ⟨(e - format.least).toNat, by omega⟩
  induction zeros generalizing m with
  | zero => exact ⟨m, _, ⟨small, least, greatest, .inr (add_zero _)⟩, rfl⟩
  | succ zeros ih =>
      by_cases leading : 2 ^ (format.precision - 1) ≤ m
      · exact ⟨m, _, ⟨small, least, greatest, .inl leading⟩, rfl⟩
      · have room : m * 2 < 2 ^ format.precision := by
          cases digits : format.precision with
          | zero =>
              rw [digits, pow_zero] at small
              omega
          | succ digits' =>
              rw [digits] at leading
              exact Nat.mul_lt_mul_of_pos_right (not_le.mp leading) Nat.two_pos
        obtain ⟨m', e', holds, same⟩ := ih room (by omega) (by omega)
        refine ⟨m', e', holds, same.trans ?_⟩
        rw [Nat.cast_succ, ← add_assoc, zpow_add_one₀ two_ne_zero]
        push_cast
        ring

/-- No number of a format reaches the middle behind its greatest one. -/
theorem BinaryFormat.Holds.value_lt {format : BinaryFormat} {m : Nat} {e : Int}
    (h : format.Holds m e) :
    (m * 2 ^ e : ℚ) < ((2 : ℚ) ^ format.precision - 1 / 2) * 2 ^ format.greatest := by
  have whole : (m + 1 : ℚ) ≤ 2 ^ format.precision := by exact_mod_cast h.mantissa_lt
  calc (m * 2 ^ e : ℚ) < ((2 : ℚ) ^ format.precision - 1 / 2) * 2 ^ e :=
        mul_lt_mul_of_pos_right (by linarith) (zpow_pos two_pos _)
    _ ≤ ((2 : ℚ) ^ format.precision - 1 / 2) * 2 ^ format.greatest := by
        have one : (1 : ℚ) ≤ 2 ^ format.precision := one_le_pow₀ one_le_two
        exact mul_le_mul_of_nonneg_left (zpow_le_zpow_right₀ one_le_two h.greatest) (by linarith)

/-- What has a higher exponent is a number of units of a lower one. -/
theorem exists_units {low high : Int} (order : low ≤ high) (m : Nat) :
    ∃ k : Nat, (m * 2 ^ high : ℚ) = k * 2 ^ low := by
  refine ⟨m * 2 ^ (high - low).toNat, ?_⟩
  rw [two_zpow_of_le order]
  push_cast
  ring

/-- What has a lower exponent stays below the mantissas with a leading bit. -/
theorem pow_mul_le {digits : Nat} (given : 1 ≤ digits) {low high : Int} (order : low < high) :
    (2 : ℚ) ^ digits * 2 ^ low ≤ 2 ^ (digits - 1) * 2 ^ high := by
  rw [← zpow_natCast, ← zpow_natCast, ← zpow_add₀ two_ne_zero, ← zpow_add₀ two_ne_zero]
  exact zpow_le_zpow_right₀ one_le_two (by omega)

variable (format : BinaryFormat) {num den : Nat}

/-- The exponent of the last bit that a format keeps of a quotient. -/
def BinaryFormat.lastBit (num den : Nat) : Int :=
  max format.least (binaryOrder num den - format.precision + 1)

/-- A quotient as an integer in units of the last bit. -/
def BinaryFormat.units (num den : Nat) : Nat :=
  roundQuotient (scaled 2 num den (format.lastBit num den)).1
    (scaled 2 num den (format.lastBit num den)).2

/-- A full number of units is carried to the next exponent. -/
theorem BinaryFormat.nearest_eq :
    format.nearest num den =
      if format.units num den = 2 ^ format.precision then
        if format.greatest < format.lastBit num den + 1 then none
        else some (format.units num den / 2, format.lastBit num den + 1)
      else
        if format.greatest < format.lastBit num den then none
        else some (format.units num den, format.lastBit num den) := by
  show (let rounded :=
      if format.units num den = 2 ^ format.precision then
        (format.units num den / 2, format.lastBit num den + 1)
      else (format.units num den, format.lastBit num den)
    if format.greatest < rounded.2 then none else some rounded) = _
  by_cases full : format.units num den = 2 ^ format.precision
  · simp only [if_pos full]
  · simp only [if_neg full]

theorem BinaryFormat.nearest_eq_none :
    format.nearest num den = none ↔ format.greatest < format.lastBit num den ∨
      format.greatest = format.lastBit num den ∧ format.units num den = 2 ^ format.precision := by
  rw [nearest_eq]
  split
  · simp only [ite_eq_left_iff, reduceCtorEq, imp_false, not_not]
    omega
  · simp only [ite_eq_left_iff, reduceCtorEq, imp_false, not_not]
    omega

theorem BinaryFormat.units_error (num : Nat) (hden : 0 < den) :
    |(format.units num den : ℚ) - num / den / 2 ^ format.lastBit num den| ≤ 1 / 2 := by
  have pos := scaled_pos Nat.two_pos num hden (format.lastBit num den)
  have value := scaled_value Nat.two_pos num den (format.lastBit num den)
  rw [Nat.cast_ofNat] at value
  rw [← value]
  exact roundQuotient_error _ pos

/-- On the grid of the last bit no point is closer to the quotient. -/
theorem BinaryFormat.units_closest (num : Nat) (hden : 0 < den) (k : Nat) :
    let unit : ℚ := 2 ^ format.lastBit num den
    |format.units num den * unit - num / den| ≤ |k * unit - num / den| ∧
      (|format.units num den * unit - num / den| = |k * unit - num / den| →
        k = format.units num den ∨ format.units num den % 2 = 0) := by
  intro unit
  have power : 0 < unit := zpow_pos two_pos _
  have pos := scaled_pos Nat.two_pos num hden (format.lastBit num den)
  have value := scaled_value Nat.two_pos num den (format.lastBit num den)
  rw [Nat.cast_ofNat] at value
  have grid (n : Nat) : |n * unit - num / den| = |(n : ℚ) - num / den / unit| * unit := by
    rw [← abs_of_pos power, ← abs_mul, abs_of_pos power, sub_mul, div_mul_cancel₀ _ power.ne']
  rw [grid, grid, mul_le_mul_iff_left₀ power, mul_left_inj' power.ne', ← value]
  exact roundQuotient_closest _ pos k

variable (hnum : 0 < num) (hden : 0 < den)

include hnum hden

theorem BinaryFormat.quotient_lt :
    (num : ℚ) / den / 2 ^ format.lastBit num den < 2 ^ format.precision := by
  obtain ⟨-, lt_order⟩ := binaryOrder_bounds hnum hden
  rw [div_lt_iff₀ (zpow_pos two_pos _), ← zpow_natCast, ← zpow_add₀ two_ne_zero]
  refine lt_order.trans_le (zpow_le_zpow_right₀ one_le_two ?_)
  rw [BinaryFormat.lastBit]
  omega

/-- A quotient has as many digits as the mantissas have, unless the last bit is the least. -/
theorem BinaryFormat.le_quotient (digits : 1 ≤ format.precision)
    (higher : format.lastBit num den ≠ format.least) :
    (2 : ℚ) ^ (format.precision - 1) * 2 ^ format.lastBit num den ≤ num / den := by
  obtain ⟨order_le, -⟩ := binaryOrder_bounds hnum hden
  rw [← zpow_natCast, ← zpow_add₀ two_ne_zero]
  refine le_trans (zpow_le_zpow_right₀ one_le_two ?_) order_le
  rw [BinaryFormat.lastBit] at higher ⊢
  omega

/-- There are at most as many units as mantissas, and at least half as many unless the last bit is
the least. -/
theorem BinaryFormat.units_bounds (digits : 1 ≤ format.precision) :
    format.units num den ≤ 2 ^ format.precision ∧
      (2 ^ (format.precision - 1) ≤ format.units num den ∨
        format.lastBit num den = format.least) := by
  have error := abs_le.mp (format.units_error num hden)
  constructor
  · have below := format.quotient_lt hnum hden
    have small : (format.units num den : ℚ) < 2 ^ format.precision + 1 := by linarith
    exact Nat.lt_succ_iff.mp (by exact_mod_cast small)
  · rw [or_iff_not_imp_right]
    intro higher
    have edge := format.le_quotient hnum hden digits higher
    rw [← le_div_iff₀ (zpow_pos two_pos _)] at edge
    have large : (2 : ℚ) ^ (format.precision - 1) < format.units num den + 1 := by linarith
    exact Nat.lt_succ_iff.mp (by exact_mod_cast large)

/-- What a quotient is rounded to is its number of units. -/
theorem BinaryFormat.nearest_eq_some (digits : 2 ≤ format.precision) {m : Nat} {e : Int}
    (found : format.nearest num den = some (m, e)) :
    format.Holds m e ∧ (m * 2 ^ e : ℚ) = format.units num den * 2 ^ format.lastBit num den ∧
      (format.units num den % 2 = 0 → m % 2 = 0) := by
  obtain ⟨most, leading⟩ := format.units_bounds hnum hden (by omega)
  have reached : format.least ≤ format.lastBit num den := le_max_left _ _
  rw [nearest_eq] at found
  by_cases full : format.units num den = 2 ^ format.precision
  · obtain ⟨k, hk⟩ := Nat.exists_eq_add_of_le' digits
    have half : format.units num den / 2 = 2 ^ (k + 1) := by
      rw [full, hk, Nat.pow_succ, Nat.mul_div_cancel _ Nat.two_pos]
    rw [if_pos full, half] at found
    split at found
    · cases found
    · rename_i bound
      obtain ⟨rfl, rfl⟩ := Prod.mk.inj (Option.some.inj found)
      refine ⟨⟨?_, by omega, not_lt.mp bound, .inl ?_⟩, ?_, fun _ => ?_⟩
      · rw [hk]
        exact Nat.pow_lt_pow_right Nat.one_lt_two (Nat.lt_succ_self _)
      · rw [hk]
        rfl
      · rw [full, hk, zpow_add_one₀ two_ne_zero]
        push_cast
        ring
      · rw [Nat.pow_succ, Nat.mul_mod_left]
  · rw [if_neg full] at found
    split at found
    · cases found
    · rename_i bound
      obtain ⟨rfl, rfl⟩ := Prod.mk.inj (Option.some.inj found)
      exact ⟨⟨by omega, reached, not_lt.mp bound, leading⟩, rfl, id⟩

/-- What has a lower exponent than the last bit is farther away than the closest point of its
grid. -/
theorem BinaryFormat.closer_than_lower (digits : 1 ≤ format.precision) {m : Nat} {e : Int}
    (holds : format.Holds m e) (order : e < format.lastBit num den) :
    |format.units num den * 2 ^ format.lastBit num den - (num / den : ℚ)| <
      |(m * 2 ^ e : ℚ) - num / den| := by
  have edge := format.le_quotient hnum hden digits (holds.least.trans_lt order).ne'
  have below : (m * 2 ^ e : ℚ) < 2 ^ (format.precision - 1) * 2 ^ format.lastBit num den := by
    calc (m * 2 ^ e : ℚ) < 2 ^ format.precision * 2 ^ e := by
          refine mul_lt_mul_of_pos_right ?_ (zpow_pos two_pos _)
          exact_mod_cast holds.mantissa_lt
      _ ≤ 2 ^ (format.precision - 1) * 2 ^ format.lastBit num den := pow_mul_le digits order
  have closest := (format.units_closest num hden (2 ^ (format.precision - 1))).1
  rw [Nat.cast_pow, Nat.cast_ofNat, abs_sub_comm (2 ^ _ * 2 ^ _ : ℚ),
    abs_of_nonneg (sub_nonneg.mpr edge)] at closest
  rw [abs_sub_comm (m * 2 ^ e : ℚ), abs_of_pos (sub_pos.mpr (below.trans_le edge))]
  linarith

/-- What a quotient is rounded to is the closest number of the format. -/
theorem BinaryFormat.nearest_closest (digits : 2 ≤ format.precision) {m : Nat} {e : Int}
    (found : format.nearest num den = some (m, e)) : format.Closest (num / den) m e := by
  obtain ⟨holds, value, even⟩ := format.nearest_eq_some hnum hden digits found
  -- other numbers are on the grid of the last bit, or have a lower exponent
  refine ⟨holds, fun m' e' holds' => ?_, fun m' e' holds' tie => ?_⟩
  · rw [value]
    rcases lt_or_ge e' (format.lastBit num den) with below | above
    · exact (format.closer_than_lower hnum hden (by omega) holds' below).le
    · obtain ⟨k, same⟩ := exists_units above m'
      rw [same]
      exact (format.units_closest num hden k).1
  · rw [value] at tie ⊢
    rcases lt_or_ge e' (format.lastBit num den) with below | above
    · exact absurd tie (format.closer_than_lower hnum hden (by omega) holds' below).ne
    · obtain ⟨k, same⟩ := exists_units above m'
      rw [same] at tie ⊢
      rcases (format.units_closest num hden k).2 tie with rfl | two
      · exact .inl rfl
      · exact .inr (even two)

/-- Beyond the middle between the greatest number of a format and the power of two behind it nothing
is nearest. The middle itself is a tie that goes to the power of two. -/
theorem BinaryFormat.nearest_eq_none_iff (digits : 2 ≤ format.precision)
    (range : format.least ≤ format.greatest) :
    format.nearest num den = none ↔
      ((2 : ℚ) ^ format.precision - 1 / 2) * 2 ^ format.greatest ≤ num / den := by
  have power : (0 : ℚ) < 2 ^ format.lastBit num den := zpow_pos two_pos _
  have last : (0 : ℚ) < 2 ^ format.greatest := zpow_pos two_pos _
  have error := abs_le.mp (format.units_error num hden)
  rw [format.nearest_eq_none]
  constructor
  · rintro (above | ⟨top, full⟩)
    · calc ((2 : ℚ) ^ format.precision - 1 / 2) * 2 ^ format.greatest
          ≤ 2 ^ format.precision * 2 ^ format.greatest :=
            mul_le_mul_of_nonneg_right (by linarith) last.le
        _ ≤ 2 ^ (format.precision - 1) * 2 ^ format.lastBit num den :=
            pow_mul_le (by omega) above
        _ ≤ num / den := format.le_quotient hnum hden (by omega) (by omega)
    · rw [full] at error
      push_cast at error
      rw [top, ← le_div_iff₀ power]
      linarith
  · intro reached
    have below := format.quotient_lt hnum hden
    rcases lt_trichotomy format.greatest (format.lastBit num den) with above | top | under
    · exact .inl above
    · refine .inr ⟨top, ?_⟩
      have value := scaled_value Nat.two_pos num den (format.lastBit num den)
      rw [Nat.cast_ofNat] at value
      rw [top, ← le_div_iff₀ power] at reached
      apply roundQuotient_eq (scaled_pos Nat.two_pos num hden _)
      · rw [value]
        exact_mod_cast reached
      · rw [value]
        push_cast
        linarith
      · intro _
        obtain ⟨k, hk⟩ := Nat.exists_eq_add_of_le' digits
        rw [hk, Nat.pow_succ, Nat.mul_mod_left]
    · rw [div_lt_iff₀ power] at below
      have half : (1 : ℚ) ≤ 2 ^ (format.precision - 1) := one_le_pow₀ one_le_two
      have double : (2 : ℚ) ^ format.precision = 2 * 2 ^ (format.precision - 1) := by
        rw [← pow_succ', Nat.sub_add_cancel (by omega)]
      have less : (2 : ℚ) ^ (format.precision - 1) * 2 ^ format.greatest ≤
          ((2 : ℚ) ^ format.precision - 1 / 2) * 2 ^ format.greatest :=
        mul_le_mul_of_nonneg_right (by linarith) last.le
      have shifted := pow_mul_le (show 1 ≤ format.precision by omega) under
      linarith

end Formats

end SignalGraph.Decimal
