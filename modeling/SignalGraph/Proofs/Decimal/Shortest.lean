import SignalGraph.Decimal.Shortest
import SignalGraph.Proofs.Decimal.Nearest

/-!
The search for the shortest decimal of a double. What it finds lies in the interval of the double,
and it always finds something: within 24 grids it reaches one whose steps are shorter than half of
the interval.
-/

namespace SignalGraph.Decimal

section Membership

variable {m : Nat} {e : Int}

theorem Interval.den_pos (m : Nat) (e : Int) : 0 < (Interval.ofDouble m e).den :=
  dyadic_pos _ _

/-- All three points of an interval have one denominator. -/
theorem dyadic_den (m m' : Nat) (e : Int) : (dyadic m e).2 = (dyadic m' e).2 := by
  cases e <;> rfl

theorem quarter (e : Int) : (2 : ℚ) ^ (e - 2) = 2 ^ e / 4 := by
  rw [zpow_sub₀ two_ne_zero]
  norm_num

theorem Interval.low_value (pos : 0 < m) :
    ((Interval.ofDouble m e).low : ℚ) / (Interval.ofDouble m e).den =
      (m - reach m e) * 2 ^ e := by
  let below := if m = Nat.pow 2 52 && -1074 < e then 1 else 2
  have value := dyadic_value (4 * m - below) (e - 2)
  have reached : (below : ℚ) = 4 * reach m e := by
    simp only [below, reach, Nat.pow_eq, Bool.and_eq_true, decide_eq_true_eq]
    split <;> norm_num
  have le : below ≤ 4 * m := by
    simp only [below]
    split <;> omega
  refine value.trans ?_
  rw [Nat.cast_sub le, reached, quarter]
  push_cast
  ring

theorem Interval.value_value (m : Nat) (e : Int) :
    ((Interval.ofDouble m e).value : ℚ) / (Interval.ofDouble m e).den = m * 2 ^ e := by
  have value := dyadic_value (4 * m) (e - 2)
  rw [dyadic_den (4 * m) _ (e - 2), quarter] at value
  refine value.trans ?_
  push_cast
  ring

theorem Interval.high_value (m : Nat) (e : Int) :
    ((Interval.ofDouble m e).high : ℚ) / (Interval.ofDouble m e).den = (m + 1 / 2) * 2 ^ e := by
  have value := dyadic_value (4 * m + 2) (e - 2)
  rw [dyadic_den (4 * m + 2) _ (e - 2), quarter] at value
  refine value.trans ?_
  push_cast
  ring

theorem cast_div_le {a b c d : Nat} (hb : 0 < b) (hd : 0 < d) :
    (a : ℚ) / b ≤ c / d ↔ a * d ≤ c * b := by
  rw [div_le_div_iff₀ (Nat.cast_pos.mpr hb) (Nat.cast_pos.mpr hd)]
  exact_mod_cast Iff.rfl

theorem cast_div_lt {a b c d : Nat} (hb : 0 < b) (hd : 0 < d) :
    (a : ℚ) / b < c / d ↔ a * d < c * b := by
  rw [div_lt_div_iff₀ (Nat.cast_pos.mpr hb) (Nat.cast_pos.mpr hd)]
  exact_mod_cast Iff.rfl

theorem Interval.contains_iff (i : Interval) (pos : 0 < i.den) {num den : Nat} (hden : 0 < den) :
    i.contains num den ↔
      if i.closed then (i.low / i.den : ℚ) ≤ num / den ∧ (num / den : ℚ) ≤ i.high / i.den
      else (i.low / i.den : ℚ) < num / den ∧ (num / den : ℚ) < i.high / i.den := by
  rw [cast_div_le pos hden, cast_div_le hden pos, cast_div_lt pos hden, cast_div_lt hden pos,
    Interval.contains]
  split <;> simp only [Bool.and_eq_true, decide_eq_true_eq]

theorem Interval.ofDouble_contains (pos : 0 < m) {num den : Nat} (hden : 0 < den) :
    (Interval.ofDouble m e).contains num den ↔
      if m % 2 = 0 then
        (m - reach m e) * 2 ^ e ≤ (num / den : ℚ) ∧ (num / den : ℚ) ≤ (m + 1 / 2) * 2 ^ e
      else (m - reach m e) * 2 ^ e < (num / den : ℚ) ∧ (num / den : ℚ) < (m + 1 / 2) * 2 ^ e := by
  rw [Interval.contains_iff _ (Interval.den_pos m e) hden, Interval.low_value pos,
    Interval.high_value]
  simp only [Interval.ofDouble, decide_eq_true_eq]

/-- A quotient that the interval of a double contains is near the double. -/
theorem Interval.near_of_contains (pos : 0 < m) {num den : Nat} (hden : 0 < den)
    (inside : (Interval.ofDouble m e).contains num den) : Near m e (num / den) := by
  rw [Interval.ofDouble_contains pos hden] at inside
  split at inside
  · rename_i even
    exact ⟨inside.1, inside.2, fun _ => even⟩
  · refine ⟨inside.1.le, inside.2.le, ?_⟩
    rintro (low | high)
    · exact absurd low inside.1.ne'
    · exact absurd high inside.2.ne

/-- A quotient that is less than a quarter of a unit away from a double is in its interval. -/
theorem Interval.contains_of_close (pos : 0 < m) {num den : Nat} (hden : 0 < den)
    (low : (m - 1 / 4) * 2 ^ e < (num / den : ℚ)) (high : (num / den : ℚ) < (m + 1 / 4) * 2 ^ e) :
    (Interval.ofDouble m e).contains num den := by
  have power : (0 : ℚ) < 2 ^ e := zpow_pos two_pos _
  have reached : 1 / 4 ≤ reach m e := by
    simp only [reach]
    split <;> norm_num
  have low' : (m - reach m e) * 2 ^ e < (num / den : ℚ) :=
    lt_of_le_of_lt (mul_le_mul_of_nonneg_right (by linarith) power.le) low
  have high' : (num / den : ℚ) < (m + 1 / 2) * 2 ^ e :=
    high.trans_le (mul_le_mul_of_nonneg_right (by linarith) power.le)
  rw [Interval.ofDouble_contains pos hden]
  split
  · exact ⟨low'.le, high'.le⟩
  · exact ⟨low', high'⟩

end Membership

section Search

variable {m : Nat} {e : Int}

/-- A point of a grid, as a fraction. -/
def gridFraction (digits : Nat) : Int → Nat × Nat
  | .ofNat e => (digits * Nat.pow 10 e, 1)
  | .negSucc e => (digits, Nat.pow 10 (e + 1))

theorem gridFraction_pos (digits : Nat) (exponent : Int) :
    0 < (gridFraction digits exponent).2 := by
  cases exponent with
  | ofNat e => exact Nat.one_pos
  | negSucc e => exact Nat.pow_pos (by decide)

theorem gridFraction_value (digits : Nat) (exponent : Int) :
    ((gridFraction digits exponent).1 : ℚ) / (gridFraction digits exponent).2 =
      digits * 10 ^ exponent := by
  cases exponent with
  | ofNat e =>
      simp only [gridFraction, Nat.pow_eq, Nat.cast_mul, Nat.cast_pow, Nat.cast_ofNat, Nat.cast_one,
        div_one, Int.ofNat_eq_natCast, zpow_natCast]
  | negSucc e =>
      simp only [gridFraction, Nat.pow_eq, Nat.cast_pow, Nat.cast_ofNat, zpow_negSucc,
        div_eq_mul_inv]

theorem Interval.gridPoint?_eq (i : Interval) (exponent : Int) :
    i.gridPoint? exponent =
      let inside (digits : Nat) :=
        i.contains (gridFraction digits exponent).1 (gridFraction digits exponent).2
      let scale := scaled 10 i.value i.den exponent
      let nearest := roundQuotient scale.1 scale.2
      let other := if nearest = scale.1 / scale.2 then nearest + 1 else scale.1 / scale.2
      if 0 < nearest && inside nearest then some nearest
      else if 0 < other && inside other then some other
      else none := by
  cases exponent <;> rfl

/-- A point that is found on a grid is near the double. -/
theorem Interval.gridPoint?_near (pos : 0 < m) {exponent : Int} {digits : Nat}
    (found : (Interval.ofDouble m e).gridPoint? exponent = some digits) :
    0 < digits ∧ Near m e (digits * 10 ^ exponent) := by
  rw [Interval.gridPoint?_eq] at found
  extract_lets inside scale nearest other at found
  have chosen : ∀ digits, (0 < digits && inside digits) →
      0 < digits ∧ Near m e (digits * 10 ^ exponent) := by
    intro digits taken
    rw [Bool.and_eq_true, decide_eq_true_eq] at taken
    have near := Interval.near_of_contains pos (gridFraction_pos digits exponent) taken.2
    rw [gridFraction_value] at near
    exact ⟨taken.1, near⟩
  split at found
  · rename_i taken
    exact Option.some.inj found ▸ chosen _ taken
  · split at found
    · rename_i taken
      exact Option.some.inj found ▸ chosen _ taken
    · cases found

/-- On a grid of steps shorter than half a unit a point is found. -/
theorem Interval.gridPoint?_isSome (pos : 0 < m) {exponent : Int}
    (fine : (10 : ℚ) ^ exponent < 2 ^ (e - 1)) :
    ((Interval.ofDouble m e).gridPoint? exponent).isSome := by
  have power : (0 : ℚ) < 2 ^ e := zpow_pos two_pos _
  have step : (0 : ℚ) < 10 ^ exponent := zpow_pos (by norm_num) _
  have unit : (1 : ℚ) ≤ m := Nat.one_le_cast.mpr pos
  have fine' : 2 * (10 : ℚ) ^ exponent < 2 ^ e := by
    rw [zpow_sub_one₀ two_ne_zero] at fine
    linarith
  rw [Interval.gridPoint?_eq]
  extract_lets inside scale nearest other
  have error : |(nearest : ℚ) - m * 2 ^ e / 10 ^ exponent| ≤ 1 / 2 := by
    have value := scaled_value (show 0 < 10 by decide) (Interval.ofDouble m e).value
      (Interval.ofDouble m e).den exponent
    rw [Interval.value_value, Nat.cast_ofNat] at value
    rw [← value]
    exact roundQuotient_error _ (scaled_pos (by decide) _ (Interval.den_pos m e) exponent)
  rw [abs_le] at error
  have low : m * 2 ^ e - 10 ^ exponent / 2 ≤ nearest * (10 : ℚ) ^ exponent := by
    have scaled := mul_le_mul_of_nonneg_right error.1 step.le
    rw [sub_mul, div_mul_cancel₀ _ step.ne'] at scaled
    linarith
  have high : nearest * (10 : ℚ) ^ exponent ≤ m * 2 ^ e + 10 ^ exponent / 2 := by
    have scaled := mul_le_mul_of_nonneg_right error.2 step.le
    rw [sub_mul, div_mul_cancel₀ _ step.ne'] at scaled
    linarith
  have positive : 0 < nearest := by
    have value : (0 : ℚ) < nearest * 10 ^ exponent := by nlinarith
    exact_mod_cast (pos_iff_pos_of_mul_pos value).mpr step
  have taken : inside nearest := by
    apply Interval.contains_of_close pos (gridFraction_pos nearest exponent)
    · rw [gridFraction_value]
      linarith
    · rw [gridFraction_value]
      linarith
  rw [if_pos (by rw [taken, Bool.and_true, decide_eq_true positive])]
  rfl

theorem Interval.search_near (pos : 0 < m) {top : Int} {count : Nat} {decimal : Decimal}
    (found : (Interval.ofDouble m e).search top count = some decimal) :
    0 < decimal.digits ∧ Near m e (decimal.digits * 10 ^ decimal.exponent) := by
  induction count generalizing top with
  | zero => cases found
  | succ count ih =>
      simp only [Interval.search] at found
      split at found
      · rename_i digits point
        obtain rfl := Option.some.inj found
        exact Interval.gridPoint?_near pos point
      · exact ih found

theorem Interval.search_isSome (i : Interval) {top : Int} (k count : Nat) (tried : k < count)
    (found : (i.gridPoint? (top - k)).isSome) : (i.search top count).isSome := by
  induction count generalizing top k with
  | zero => cases tried
  | succ count ih =>
      simp only [Interval.search]
      split
      · rfl
      · rename_i nothing
        cases k with
        | zero =>
            rw [Nat.cast_zero, Int.sub_zero, nothing] at found
            cases found
        | succ k =>
            apply ih k (Nat.lt_of_succ_lt_succ tried)
            rwa [show top - 1 - (k : Int) = top - (k + 1 : Nat) by push_cast; ring]

theorem ten_pow_le {k n : Nat} (h : 10 * k ≤ 3 * n) : 10 ^ k ≤ 2 ^ n := by
  apply (Nat.pow_le_pow_iff_left (show 3 ≠ 0 by decide)).mp
  calc (10 ^ k) ^ 3 = (10 ^ 3) ^ k := Nat.pow_right_comm ..
    _ ≤ (2 ^ 10) ^ k := Nat.pow_le_pow_left (by decide) k
    _ = 2 ^ (10 * k) := (Nat.pow_mul ..).symm
    _ ≤ 2 ^ (3 * n) := Nat.pow_le_pow_right Nat.two_pos h
    _ = (2 ^ n) ^ 3 := by rw [Nat.mul_comm, Nat.pow_mul]

theorem two_pow_le {k n : Nat} (h : 10 * n ≤ 33 * k) : 2 ^ n ≤ 10 ^ k := by
  apply (Nat.pow_le_pow_iff_left (show 10 ≠ 0 by decide)).mp
  calc (2 ^ n) ^ 10 = 2 ^ (10 * n) := by rw [Nat.mul_comm, Nat.pow_mul]
    _ ≤ 2 ^ (33 * k) := Nat.pow_le_pow_right Nat.two_pos h
    _ = (2 ^ 33) ^ k := Nat.pow_mul ..
    _ ≤ (10 ^ 10) ^ k := Nat.pow_le_pow_left (by decide) k
    _ = (10 ^ k) ^ 10 := Nat.pow_right_comm ..

/-- Ten bits hold three decimal digits, and ten decimal digits hold 33 bits. -/
theorem ten_zpow_le {k n : Int} (digits : 10 * k ≤ 3 * n) (bits : 33 * k ≤ 10 * n) :
    (10 : ℚ) ^ k ≤ 2 ^ n := by
  rcases le_total 0 k with whole | fraction
  · lift k to ℕ using whole
    lift n to ℕ using by omega
    rw [zpow_natCast, zpow_natCast]
    exact_mod_cast ten_pow_le (by omega)
  · rcases le_total 0 n with large | small
    · exact (zpow_le_one_of_nonpos₀ (by norm_num) fraction).trans
        (one_le_zpow₀ (by norm_num) large)
    · obtain ⟨a, rfl⟩ := Int.exists_eq_neg_ofNat fraction
      obtain ⟨b, rfl⟩ := Int.exists_eq_neg_ofNat small
      rw [zpow_neg, zpow_neg, zpow_natCast, zpow_natCast]
      apply inv_anti₀ (by positivity)
      exact_mod_cast two_pow_le (by omega)

/-- The shortest decimal of a double is near it. -/
theorem shortest_near (double : InDouble m e) (pos : 0 < m) :
    0 < (shortest m e).digits ∧
      Near m e ((shortest m e).digits * 10 ^ (shortest m e).exponent) := by
  have fine : (10 : ℚ) ^ (decimalBound (e + m.log2 + 1) - 23) < 2 ^ (e - 1) := by
    have order : m.log2 < 53 := (Nat.log2_lt pos.ne').mpr double.mantissa_lt
    have least := double.least
    have greatest := double.greatest
    refine (ten_zpow_le (n := e - 2) ?_ ?_).trans_lt
      (zpow_lt_zpow_right₀ one_lt_two (by omega))
    · simp only [decimalBound]
      omega
    · simp only [decimalBound]
      omega
  have found := Interval.search_isSome _ 23 24 (by decide)
    (Interval.gridPoint?_isSome pos fine)
  obtain ⟨decimal, search⟩ := Option.isSome_iff_exists.mp found
  rw [shortest, search]
  exact Interval.search_near pos search

end Search

end SignalGraph.Decimal
