import SignalGraph.Proofs.Decimal.Bits

/-!
Rounding to a double. Every double has an interval of rationals around it, and each quotient in the
interval is rounded to that double.
-/

namespace SignalGraph.Decimal

section Quotients

theorem scaled_pos {base : Nat} (hbase : 0 < base) (num : Nat) {den : Nat} (pos : 0 < den)
    (exponent : Int) : 0 < (scaled base num den exponent).2 := by
  cases exponent with
  | ofNat e => exact Nat.mul_pos pos (Nat.pow_pos hbase)
  | negSucc e => exact pos

theorem scaled_value {base : Nat} (hbase : 0 < base) (num den : Nat) (exponent : Int) :
    ((scaled base num den exponent).1 : ℚ) / (scaled base num den exponent).2 =
      num / den / (base : ℚ) ^ exponent := by
  have nonzero : (base : ℚ) ≠ 0 := Nat.cast_ne_zero.mpr hbase.ne'
  cases exponent with
  | ofNat e =>
      simp only [scaled, Nat.pow_eq, Nat.cast_mul, Nat.cast_pow, Int.ofNat_eq_natCast, zpow_natCast,
        div_div]
  | negSucc e =>
      simp only [scaled, Nat.pow_eq, Nat.cast_mul, Nat.cast_pow, zpow_negSucc, div_inv_eq_mul]
      ring

theorem dyadic_pos (mantissa : Nat) (exponent : Int) : 0 < (dyadic mantissa exponent).2 := by
  cases exponent with
  | ofNat e => exact Nat.one_pos
  | negSucc e => exact Nat.pow_pos Nat.two_pos

theorem dyadic_value (mantissa : Nat) (exponent : Int) :
    ((dyadic mantissa exponent).1 : ℚ) / (dyadic mantissa exponent).2 =
      mantissa * 2 ^ exponent := by
  cases exponent with
  | ofNat e =>
      simp only [dyadic, Nat.pow_eq, Nat.cast_mul, Nat.cast_pow, Nat.cast_ofNat, Nat.cast_one,
        div_one, Int.ofNat_eq_natCast, zpow_natCast]
  | negSucc e =>
      simp only [dyadic, Nat.pow_eq, Nat.cast_pow, Nat.cast_ofNat, zpow_negSucc, div_eq_mul_inv]

theorem two_zpow_add (e : Int) (k : ℕ) : (2 : ℚ) ^ (e + k) = 2 ^ k * 2 ^ e := by
  rw [zpow_add₀ two_ne_zero, zpow_natCast, mul_comm]

theorem two_zpow_of_le {low high : Int} (order : low ≤ high) :
    (2 : ℚ) ^ high = 2 ^ (high - low).toNat * 2 ^ low := by
  rw [← two_zpow_add]
  congr 1
  omega

/-- Mantissas with the same value agree when the one with the higher exponent is shifted. -/
theorem shift_of_same {m n : Nat} {e f : Int} (same : (m * 2 ^ e : ℚ) = n * 2 ^ f) :
    m * 2 ^ (e - f).toNat = n * 2 ^ (f - e).toNat := by
  rcases le_total e f with lower | higher
  · have none : (e - f).toNat = 0 := by omega
    rw [two_zpow_of_le lower, ← mul_assoc] at same
    rw [none, pow_zero, mul_one]
    exact_mod_cast mul_right_cancel₀ (zpow_pos two_pos e).ne' same
  · have none : (f - e).toNat = 0 := by omega
    rw [two_zpow_of_le higher, ← mul_assoc] at same
    rw [none, pow_zero, mul_one]
    exact_mod_cast mul_right_cancel₀ (zpow_pos two_pos f).ne' same

/-- A quotient is rounded to a number within half a unit of it, in the middle to an even one. -/
theorem roundQuotient_bounds (num : Nat) {den : Nat} (pos : 0 < den) :
    2 * num ≤ 2 * (roundQuotient num den * den) + den ∧
      2 * (roundQuotient num den * den) ≤ 2 * num + den ∧
      (2 * num = 2 * (roundQuotient num den * den) + den ∨
        2 * (roundQuotient num den * den) = 2 * num + den → roundQuotient num den % 2 = 0) := by
  have whole := Nat.div_add_mod' num den
  have rest := Nat.mod_lt num pos
  simp only [roundQuotient]
  split
  · omega
  · split
    · rw [Nat.add_mul, Nat.one_mul]
      omega
    · rcases Nat.mod_two_eq_zero_or_one (num / den) with even | odd
      · rw [even, Nat.add_zero]
        omega
      · rw [odd, Nat.add_mul, Nat.one_mul]
        omega

theorem roundQuotient_error (num : Nat) {den : Nat} (pos : 0 < den) :
    |(roundQuotient num den : ℚ) - num / den| ≤ 1 / 2 := by
  have posq : (0 : ℚ) < den := Nat.cast_pos.mpr pos
  obtain ⟨low, high, -⟩ := roundQuotient_bounds num pos
  have low' : (2 * num : ℚ) ≤ 2 * (roundQuotient num den * den) + den := by exact_mod_cast low
  have high' : (2 * (roundQuotient num den * den) : ℚ) ≤ 2 * num + den := by exact_mod_cast high
  rw [abs_sub_le_iff, sub_le_iff_le_add, sub_le_iff_le_add, ← sub_le_iff_le_add', le_div_iff₀ posq,
    div_le_iff₀ posq]
  constructor <;> linarith

/-- A quotient in the middle between two integers is rounded to the even one. -/
theorem roundQuotient_even (num : Nat) {den : Nat} (pos : 0 < den)
    (half : |(roundQuotient num den : ℚ) - num / den| = 1 / 2) : roundQuotient num den % 2 = 0 := by
  have posq : (0 : ℚ) < den := Nat.cast_pos.mpr pos
  apply (roundQuotient_bounds num pos).2.2
  rcases (abs_eq (by norm_num)).mp half with above | below
  · right
    rw [sub_eq_iff_eq_add, ← sub_eq_iff_eq_add', eq_div_iff posq.ne'] at above
    exact_mod_cast (by linarith : (2 * (roundQuotient num den * den) : ℚ) = 2 * num + den)
  · left
    rw [sub_eq_iff_eq_add, ← sub_eq_iff_eq_add', eq_div_iff posq.ne'] at below
    exact_mod_cast (by linarith : (2 * num : ℚ) = 2 * (roundQuotient num den * den) + den)

/-- A quotient within half a unit of a number rounds to it, and a tie does if the number is even. -/
theorem roundQuotient_eq {num den m : Nat} (pos : 0 < den)
    (low : (m : ℚ) - 1 / 2 ≤ num / den) (high : (num : ℚ) / den ≤ m + 1 / 2)
    (ties : (num : ℚ) / den = m - 1 / 2 ∨ (num : ℚ) / den = m + 1 / 2 → m % 2 = 0) :
    roundQuotient num den = m := by
  have error := roundQuotient_error num pos
  have even := roundQuotient_even num pos
  generalize roundQuotient num den = n at error even
  generalize (num : ℚ) / den = q at *
  obtain ⟨error, error'⟩ := abs_sub_le_iff.mp error
  -- two numbers that are both as close as this are neighbours, with a tie between them
  rcases Nat.lt_trichotomy n m with below | same | above
  · have step : (n : ℚ) + 1 ≤ m := by exact_mod_cast below
    have middle : q = n + 1 / 2 := by linarith
    have next : m = n + 1 := by exact_mod_cast (by linarith : (m : ℚ) = n + 1)
    have n_even := even (by rw [middle, sub_add_cancel_left, abs_neg, abs_of_pos one_half_pos])
    have m_even := ties (.inl (by linarith))
    omega
  · exact same
  · have step : (m : ℚ) + 1 ≤ n := by exact_mod_cast above
    have middle : q = n - 1 / 2 := by linarith
    have next : n = m + 1 := by exact_mod_cast (by linarith : (n : ℚ) = m + 1)
    have n_even := even (by rw [middle, sub_sub_cancel, abs_of_pos one_half_pos])
    have m_even := ties (.inr (by linarith))
    omega

/-- No integer is closer to a quotient than the one to which it is rounded, and only an even one is
as close as another. -/
theorem roundQuotient_closest (num : Nat) {den : Nat} (pos : 0 < den) (k : Nat) :
    |(roundQuotient num den : ℚ) - num / den| ≤ |(k : ℚ) - num / den| ∧
      (|(roundQuotient num den : ℚ) - num / den| = |(k : ℚ) - num / den| →
        k = roundQuotient num den ∨ roundQuotient num den % 2 = 0) := by
  have error := roundQuotient_error num pos
  have even := roundQuotient_even num pos
  by_cases same : k = roundQuotient num den
  · rw [same]
    exact ⟨le_rfl, fun _ => .inl rfl⟩
  · have apart : (1 : ℚ) ≤ |(roundQuotient num den : ℚ) - k| := by
      exact_mod_cast Int.one_le_abs (show (roundQuotient num den : Int) - k ≠ 0 by omega)
    have triangle := abs_sub_le (roundQuotient num den : ℚ) (num / den) k
    rw [abs_sub_comm (num / den : ℚ)] at triangle
    refine ⟨by linarith, fun tie => .inr (even ?_)⟩
    linarith

theorem log2_le_value {n : Nat} (pos : 0 < n) : (2 : ℚ) ^ (n.log2 : ℤ) ≤ n := by
  rw [zpow_natCast]
  exact_mod_cast Nat.log2_self_le pos.ne'

theorem value_lt_log2 (n : Nat) : (n : ℚ) < 2 ^ ((n.log2 : ℤ) + 1) := by
  have bound := Nat.lt_log2_self (n := n)
  rw [show (n.log2 : ℤ) + 1 = ((n.log2 + 1 : ℕ) : ℤ) by push_cast; rfl, zpow_natCast]
  exact_mod_cast bound

/-- The binary order of a quotient is its logarithm, rounded down. -/
theorem binaryOrder_bounds {num den : Nat} (hnum : 0 < num) (hden : 0 < den) :
    (2 : ℚ) ^ binaryOrder num den ≤ num / den ∧
      (num : ℚ) / den < 2 ^ (binaryOrder num den + 1) := by
  have posq : (0 : ℚ) < den := Nat.cast_pos.mpr hden
  let estimate : ℤ := (num.log2 : ℤ) - den.log2
  have pos := scaled_pos Nat.two_pos num hden estimate
  have value := scaled_value Nat.two_pos num den estimate
  have power : (0 : ℚ) < 2 ^ estimate := zpow_pos two_pos _
  have compare : (scaled 2 num den estimate).2 ≤ (scaled 2 num den estimate).1 ↔
      (2 : ℚ) ^ estimate ≤ num / den := by
    rw [← Nat.cast_le (α := ℚ), ← one_le_div (Nat.cast_pos.mpr pos), value, Nat.cast_ofNat,
      one_le_div power]
  have above : (num : ℚ) / den < 2 ^ (estimate + 1) := by
    rw [div_lt_iff₀ posq]
    calc (num : ℚ) < 2 ^ ((num.log2 : ℤ) + 1) := value_lt_log2 num
      _ = 2 ^ (estimate + 1) * 2 ^ (den.log2 : ℤ) := by
        rw [← zpow_add₀ two_ne_zero]
        congr 1
        simp only [estimate]
        ring
      _ ≤ 2 ^ (estimate + 1) * den :=
        mul_le_mul_of_nonneg_left (log2_le_value hden) (zpow_pos two_pos _).le
  have below : (2 : ℚ) ^ (estimate - 1) ≤ num / den := by
    rw [le_div_iff₀ posq]
    calc (2 : ℚ) ^ (estimate - 1) * den ≤ 2 ^ (estimate - 1) * 2 ^ ((den.log2 : ℤ) + 1) :=
        mul_le_mul_of_nonneg_left (value_lt_log2 den).le (zpow_pos two_pos _).le
      _ = 2 ^ (num.log2 : ℤ) := by
        rw [← zpow_add₀ two_ne_zero]
        congr 1
        simp only [estimate]
        ring
      _ ≤ num := log2_le_value hnum
  have order : binaryOrder num den =
      if (scaled 2 num den estimate).2 ≤ (scaled 2 num den estimate).1 then estimate
      else estimate - 1 := rfl
  by_cases large : (scaled 2 num den estimate).2 ≤ (scaled 2 num den estimate).1
  · rw [order, if_pos large]
    exact ⟨compare.mp large, above⟩
  · rw [order, if_neg large, Int.sub_add_cancel]
    rw [compare, not_le] at large
    exact ⟨below, large⟩

end Quotients

section Intervals

/-- How far below a double its interval reaches, in units of its last bit. Below a power of two the
next double is only half as far away. -/
def reach (mantissa : Nat) (exponent : Int) : ℚ :=
  if mantissa = 2 ^ 52 ∧ -1074 < exponent then 1 / 4 else 1 / 2

/-- The rationals that round to a double. Both ends belong to them if the mantissa is even. -/
structure Near (mantissa : Nat) (exponent : Int) (q : ℚ) : Prop where
  low : (mantissa - reach mantissa exponent) * 2 ^ exponent ≤ q
  high : q ≤ (mantissa + 1 / 2) * 2 ^ exponent
  ends : q = (mantissa - reach mantissa exponent) * 2 ^ exponent ∨
    q = (mantissa + 1 / 2) * 2 ^ exponent → mantissa % 2 = 0

theorem reach_le (mantissa : Nat) (exponent : Int) : reach mantissa exponent ≤ 1 / 2 := by
  simp only [reach]
  split <;> norm_num

/-- Where the exponent is known, a quotient near a mantissa rounds to it, or to the next power of
two if the mantissa is too wide. -/
theorem nearest_of_order {num den m : Nat} {e : Int} (pos : 0 < den)
    (order : max (-1074) (binaryOrder num den - 52) = e)
    (low : ((m : ℚ) - 1 / 2) * 2 ^ e ≤ num / den) (high : (num : ℚ) / den ≤ (m + 1 / 2) * 2 ^ e)
    (ties : (num : ℚ) / den = (m - 1 / 2) * 2 ^ e ∨ (num : ℚ) / den = (m + 1 / 2) * 2 ^ e →
      m % 2 = 0) :
    BinaryFormat.double.nearest num den =
      let rounded := if m = 2 ^ 53 then (m / 2, e + 1) else (m, e)
      if 971 < rounded.2 then none else some rounded := by
  have power : (0 : ℚ) < 2 ^ e := zpow_pos two_pos _
  have value := scaled_value Nat.two_pos num den e
  rw [Nat.cast_ofNat] at value
  have mantissa : roundQuotient (scaled 2 num den e).1 (scaled 2 num den e).2 = m := by
    apply roundQuotient_eq (scaled_pos Nat.two_pos num pos e)
    · rw [value]
      exact (le_div_iff₀ power).mpr low
    · rw [value]
      exact (div_le_iff₀ power).mpr high
    · rw [value, div_eq_iff power.ne', div_eq_iff power.ne']
      exact ties
  have exponent : max BinaryFormat.double.least
      (binaryOrder num den - BinaryFormat.double.precision + 1) = e := by
    simp only [BinaryFormat.double] at order ⊢
    omega
  simp only [BinaryFormat.nearest, exponent, mantissa]
  rfl

/-- A quotient below a power of two, by a quarter of its unit at most, is rounded up to it. -/
theorem nearest_below_power {num den : Nat} {e : Int} (hnum : 0 < num) (hden : 0 < den)
    (above : -1074 < e) (greatest : e ≤ 971) (low : (2 ^ 52 - 1 / 4) * 2 ^ e ≤ (num : ℚ) / den)
    (under : (num : ℚ) / den < 2 ^ (e + (52 : ℕ))) :
    BinaryFormat.double.nearest num den = some (2 ^ 52, e) := by
  obtain ⟨order_le, lt_order⟩ := binaryOrder_bounds hnum hden
  have power : (0 : ℚ) < 2 ^ e := zpow_pos two_pos _
  have half : (2 : ℚ) ^ e = 2 * 2 ^ (e - 1) := by
    rw [zpow_sub_one₀ two_ne_zero]
    ring
  have half_power : (0 : ℚ) < 2 ^ (e - 1) := zpow_pos two_pos _
  have order : max (-1074) (binaryOrder num den - 52) = e - 1 := by
    have lt : binaryOrder num den < e + 52 :=
      (zpow_lt_zpow_iff_right₀ one_lt_two).mp (order_le.trans_lt under)
    have le : (2 : ℚ) ^ (e + (51 : ℕ)) < 2 ^ (binaryOrder num den + 1) := by
      refine lt_of_lt_of_le ?_ (low.trans lt_order.le)
      rw [two_zpow_add]
      refine mul_lt_mul_of_pos_right ?_ power
      norm_num
    have gt : e + (51 : ℕ) < binaryOrder num den + 1 := (zpow_lt_zpow_iff_right₀ one_lt_two).mp le
    omega
  -- in units of half the size the mantissa is too wide, so that it goes up to the power of two
  rw [nearest_of_order (m := 2 ^ 53) hden order]
  · rw [if_pos rfl, Int.sub_add_cancel]
    exact if_neg (not_lt.mpr greatest)
  · refine le_trans (le_of_eq ?_) low
    rw [half]
    push_cast
    ring
  · rw [two_zpow_add, half] at under
    push_cast
    linarith
  · intro _
    rfl

/-- Only a power of two has quotients below all mantissas of its exponent that round to it. -/
theorem Near.eq_power {m : Nat} {e : Int} {q : ℚ} (near : Near m e q) (double : InDouble m e)
    (above : -1074 < e) (under : q < 2 ^ (e + (52 : ℕ))) : m = 2 ^ 52 := by
  have power : (0 : ℚ) < 2 ^ e := zpow_pos two_pos _
  have leading : 2 ^ 52 ≤ m := by
    rcases double.leading with leading | least
    · exact leading
    · omega
  by_contra other
  have more : (2 : ℚ) ^ 52 + 1 ≤ m := by exact_mod_cast (by omega : 2 ^ 52 + 1 ≤ m)
  rw [two_zpow_add] at under
  have reached := reach_le m e
  have less := lt_of_mul_lt_mul_right (near.low.trans_lt under) power.le
  linarith

/-- A quotient near a mantissa has no higher order than the mantissa. -/
theorem Near.binaryOrder_lt {num den m : Nat} {e : Int} (hnum : 0 < num) (hden : 0 < den)
    (double : InDouble m e) (near : Near m e (num / den)) : binaryOrder num den < e + 53 := by
  have power : (0 : ℚ) < 2 ^ e := zpow_pos two_pos _
  have small : (m : ℚ) ≤ 2 ^ 53 - 1 := by
    have bound := double.mantissa_lt
    rw [le_sub_iff_add_le]
    exact_mod_cast bound
  have below : (num : ℚ) / den < 2 ^ (e + (53 : ℕ)) := by
    rw [two_zpow_add]
    refine near.high.trans_lt (mul_lt_mul_of_pos_right ?_ power)
    linarith
  exact (zpow_lt_zpow_iff_right₀ one_lt_two).mp ((binaryOrder_bounds hnum hden).1.trans_lt below)

/-- Each quotient in the interval of a double rounds to the double. -/
theorem nearest_of_near {num den m : Nat} {e : Int} (hnum : 0 < num) (hden : 0 < den)
    (double : InDouble m e) (near : Near m e (num / den)) :
    BinaryFormat.double.nearest num den = some (m, e) := by
  by_cases under : -1074 < e ∧ (num : ℚ) / den < 2 ^ (e + (52 : ℕ))
  · obtain ⟨above, under⟩ := under
    obtain rfl := near.eq_power double above under
    have low := near.low
    rw [reach, if_pos ⟨rfl, above⟩] at low
    refine nearest_below_power hnum hden above double.greatest ?_ under
    exact_mod_cast low
  · have order : max (-1074) (binaryOrder num den - 52) = e := by
      have order_lt := near.binaryOrder_lt hnum hden double
      have least := double.least
      rw [not_and_or, not_lt, not_lt] at under
      rcases under with small | normal
      · omega
      · have lt := (zpow_lt_zpow_iff_right₀ one_lt_two).mp
          (normal.trans_lt (binaryOrder_bounds hnum hden).2)
        omega
    have reached := reach_le m e
    have low : ((m : ℚ) - 1 / 2) * 2 ^ e ≤ (m - reach m e) * 2 ^ e :=
      mul_le_mul_of_nonneg_right (by linarith) (zpow_pos two_pos _).le
    rw [nearest_of_order hden order (low.trans near.low) near.high]
    · rw [if_neg double.mantissa_lt.ne]
      exact if_neg (not_lt.mpr double.greatest)
    · rintro (tie | tie)
      · by_cases half : m = 2 ^ 52 ∧ -1074 < e
        · rw [half.1]
          rfl
        · exact near.ends (.inl (by rw [reach, if_neg half]; exact tie))
      · exact near.ends (.inr tie)

end Intervals

end SignalGraph.Decimal
