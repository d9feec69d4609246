import SignalGraph.Decimal.Style
import SignalGraph.Proofs.Decimal.Numeral
import SignalGraph.Proofs.Decimal.Shortest

/-!
The shortest text of a double reads back. However its digits are laid out, the text is read as the
value of the shortest decimal, and this rounds to the double.
-/

namespace SignalGraph.Decimal

section Magnitudes

variable {whole fraction tail : List Char} (negative : Bool)

/-- What does not go on with a digit. -/
def isBreak (cs : List Char) : Bool := cs.head?.all fun c => !isDigit c

theorem takeWhile_digits (digits : ∀ c ∈ whole, isDigit c) (stop : isBreak tail) :
    (whole ++ tail).takeWhile isDigit = whole := by
  rw [List.takeWhile_append_of_pos digits]
  cases tail with
  | nil => simp
  | cons c tail =>
      have other : ¬ isDigit c := by simpa [isBreak] using stop
      rw [List.takeWhile_cons_of_neg other, List.append_nil]

theorem dropWhile_digits (digits : ∀ c ∈ whole, isDigit c) (stop : isBreak tail) :
    (whole ++ tail).dropWhile isDigit = tail := by
  rw [List.dropWhile_append_of_pos digits]
  cases tail with
  | nil => rfl
  | cons c tail => exact List.dropWhile_cons_of_neg (by simpa [isBreak] using stop)

/-- Digits without a point are read as they stand. -/
theorem readMagnitude?_whole (digits : ∀ c ∈ whole, isDigit c) (given : whole ≠ [])
    (stop : isBreak tail) (pointless : tail.head? ≠ some '.') :
    readMagnitude? negative (whole ++ tail) =
      (readExponent? tail).map fun exponent =>
        ofDecimal negative (Nat.ofDigitChars 10 whole 0) exponent := by
  have nonempty : whole.isEmpty = false := List.isEmpty_eq_false_iff.mpr given
  simp only [readMagnitude?, takeWhile_digits digits stop, dropWhile_digits digits stop, nonempty]
  split
  · exact absurd rfl pointless
  · simp only [natOfDigits_digitValues, Bool.false_and, Bool.false_eq_true, ↓reduceIte,
      List.append_nil, List.length_nil, Nat.cast_zero, Int.sub_zero]

/-- Digits behind a point count towards the exponent. -/
theorem readMagnitude?_fraction (digits : ∀ c ∈ whole, isDigit c) (given : whole ≠ [])
    (digits' : ∀ c ∈ fraction, isDigit c) (stop : isBreak tail) :
    readMagnitude? negative (whole ++ '.' :: (fraction ++ tail)) =
      (readExponent? tail).map fun exponent =>
        ofDecimal negative (Nat.ofDigitChars 10 (whole ++ fraction) 0)
          (exponent - fraction.length) := by
  have point : isBreak ('.' :: (fraction ++ tail)) := rfl
  have nonempty : whole.isEmpty = false := List.isEmpty_eq_false_iff.mpr given
  simp only [readMagnitude?, takeWhile_digits digits point, dropWhile_digits digits point,
    takeWhile_digits digits' stop, dropWhile_digits digits' stop, natOfDigits_digitValues,
    nonempty, Bool.false_and, Bool.false_eq_true, ↓reduceIte]

theorem exists_whole_digits (cs : List Char) :
    ∃ whole tail, cs = whole ++ tail ∧ (∀ c ∈ whole, isDigit c) ∧ isBreak tail := by
  refine ⟨cs.takeWhile isDigit, cs.dropWhile isDigit, List.takeWhile_append_dropWhile.symm,
    fun c mem => List.mem_takeWhile_imp mem, ?_⟩
  have stop := List.head?_dropWhile_not isDigit cs
  unfold isBreak
  cases first : (cs.dropWhile isDigit).head? with
  | none => rfl
  | some c => simpa [first] using stop

/-- Behind digits and points only a point or the end follows. -/
theorem eq_nil_or_point (numeral : ∀ c ∈ tail, isDigit c ∨ c = '.') (stop : isBreak tail) :
    tail = [] ∨ ∃ rest, tail = '.' :: rest := by
  cases tail with
  | nil => exact .inl rfl
  | cons c rest =>
      have other : ¬ isDigit c := by simpa [isBreak] using stop
      obtain rfl := (numeral c List.mem_cons_self).resolve_left other
      exact .inr ⟨rest, rfl⟩

theorem count_point (digits : ∀ c ∈ whole, isDigit c) : whole.count '.' = 0 :=
  List.count_eq_zero.mpr fun mem => absurd (digits '.' mem) (by decide)

theorem any_digit (digits : ∀ c ∈ whole, isDigit c) : whole.any isDigit = !whole.isEmpty := by
  cases whole with
  | nil => rfl
  | cons c whole =>
      rw [List.any_cons, digits c List.mem_cons_self]
      rfl

/-- Among texts of digits and points, those with a digit and at most one point are read. -/
theorem readMagnitude?_isSome_iff {cs : List Char} (numeral : ∀ c ∈ cs, isDigit c ∨ c = '.') :
    (readMagnitude? negative cs).isSome ↔ cs.any isDigit ∧ cs.count '.' ≤ 1 := by
  obtain ⟨whole, tail, rfl, digits, stop⟩ := exists_whole_digits cs
  rw [List.forall_mem_append] at numeral
  rw [List.any_append, List.count_append, count_point digits, any_digit digits, Nat.zero_add]
  obtain rfl | ⟨rest, rfl⟩ := eq_nil_or_point numeral.2 stop
  · simp only [readMagnitude?, takeWhile_digits digits stop, dropWhile_digits digits stop]
    cases whole <;> simp [readExponent?]
  · obtain ⟨fraction, tail, rfl, digits', stop'⟩ := exists_whole_digits rest
    have numeral' := numeral.2
    rw [List.forall_mem_cons, List.forall_mem_append] at numeral'
    simp only [readMagnitude?, takeWhile_digits digits stop, dropWhile_digits digits stop,
      takeWhile_digits digits' stop', dropWhile_digits digits' stop']
    have point : isDigit '.' = false := by decide
    rw [List.any_cons, point, List.any_append, any_digit digits', List.count_cons_self,
      List.count_append, count_point digits']
    obtain rfl | ⟨rest, rfl⟩ := eq_nil_or_point numeral'.2.2 stop'
    · cases whole <;> cases fraction <;> simp [readExponent?]
    · have tooMany : readExponent? ('.' :: rest) = none := by simp [readExponent?]
      simp [tooMany]

theorem isDigit_of_mem_zeros (count : Nat) {digits : List Char}
    (h : ∀ c ∈ digits, isDigit c) :
    ∀ c ∈ List.replicate count '0' ++ digits, isDigit c := by
  intro c mem
  rcases List.mem_append.mp mem with zero | mem
  · rw [List.eq_of_mem_replicate zero]
    decide
  · exact h c mem

theorem readExponent?_exponentText (order : Int) :
    readExponent? (exponentText order) = some order := by
  have digits := isDigit_of_mem_zeros (2 - (Text.digitsOfNat order.natAbs).length)
    (digitsOfNat_isDigit order.natAbs)
  have magnitude : Text.natOfDigits (digitValues (List.replicate
      (2 - (Text.digitsOfNat order.natAbs).length) '0' ++ Text.digitsOfNat order.natAbs)) =
        order.natAbs := by
    rw [natOfDigits_digitValues, Nat.ofDigitChars_append, Nat.ofDigitChars_replicate_zero,
      Nat.mul_zero]
    exact Nat.ofDigitChars_ten_toDigits
  have sign : ∀ cs, takeSign ((if order < 0 then '-' else '+') :: cs) =
      (decide (order < 0), cs) := by
    intro cs
    split <;> rename_i below <;> simp only [takeSign, below, decide_true, decide_false]
  have nonempty : (List.replicate (2 - (Text.digitsOfNat order.natAbs).length) '0' ++
      Text.digitsOfNat order.natAbs).isEmpty = false := by
    rw [List.isEmpty_eq_false_iff]
    exact List.append_ne_nil_of_right_ne_nil _ Nat.toDigits_ne_nil
  rw [exponentText]
  simp only [List.cons_append, readExponent?, sign, magnitude, nonempty,
    List.all_eq_true.mpr digits]
  rw [if_pos (by decide)]
  by_cases below : order < 0
  · rw [decide_eq_true below, if_pos rfl, Int.ofNat_natAbs_of_nonpos below.le, Int.neg_neg]
  · rw [decide_eq_false below, if_neg Bool.false_ne_true,
      Int.natAbs_of_nonneg (Int.not_lt.mp below)]

end Magnitudes

section Rendering

variable {digits : List Char} (negative : Bool)

/-- A text is read as a decimal of a value. -/
def Denotes (cs : List Char) (q : ℚ) : Prop :=
  ∃ (number : Nat) (exponent : Int),
    readMagnitude? negative cs = some (ofDecimal negative number exponent) ∧
      (number : ℚ) * 10 ^ exponent = q

theorem denotes_fraction {whole : List Char} (all : ∀ c ∈ whole, isDigit c) (given : whole ≠ [])
    (fraction : List Char) (all' : ∀ c ∈ fraction, isDigit c) :
    Denotes negative (whole ++ '.' :: fraction)
      (Nat.ofDigitChars 10 (whole ++ fraction) 0 * 10 ^ (-fraction.length : Int)) := by
  have reads := readMagnitude?_fraction negative all given all' (show isBreak [] from rfl)
  rw [List.append_nil] at reads
  refine ⟨Nat.ofDigitChars 10 (whole ++ fraction) 0, -fraction.length, ?_, rfl⟩
  rw [reads, readExponent?, Option.map_some, Int.zero_sub]

theorem denotes_scientific (all : ∀ c ∈ digits, isDigit c) (given : digits ≠ []) (order : Int) :
    Denotes negative
      (digits.take 1 ++ (if (digits.drop 1).isEmpty then [] else '.' :: digits.drop 1) ++
        exponentText order)
      (Nat.ofDigitChars 10 digits 0 * 10 ^ (order + 1 - digits.length)) := by
  have stop : isBreak (exponentText order) := rfl
  have parts := List.take_append_drop 1 digits
  have positive := List.length_pos_iff.mpr given
  refine ⟨Nat.ofDigitChars 10 digits 0, order + 1 - digits.length, ?_, rfl⟩
  split
  · rename_i short
    have length : digits.length = 1 := by
      have bound := List.length_eq_zero_iff.mpr (List.isEmpty_iff.mp short)
      rw [List.length_drop] at bound
      omega
    rw [List.isEmpty_iff.mp short, List.append_nil] at parts
    rw [List.append_nil, parts, readMagnitude?_whole negative all given stop
      (show some 'e' ≠ some '.' by decide), readExponent?_exponentText, length, Option.map_some,
      Nat.cast_one, Int.add_sub_cancel]
  · have first : digits.take 1 ≠ [] := by
      rw [Ne, List.take_eq_nil_iff]
      simp [given]
    rw [List.append_assoc, List.cons_append, readMagnitude?_fraction negative
      (fun c mem => all c (List.mem_of_mem_take mem)) first
      (fun c mem => all c (List.mem_of_mem_drop mem)) stop, readExponent?_exponentText, parts,
      List.length_drop, Option.map_some]
    congr 2
    omega

/-- Zeros in front of the digits do not count. -/
theorem denotes_below_one (all : ∀ c ∈ digits, isDigit c) (count : Nat) :
    Denotes negative (['0'] ++ '.' :: (List.replicate count '0' ++ digits))
      (Nat.ofDigitChars 10 digits 0 * 10 ^ (-(count + digits.length) : Int)) := by
  have zero : ∀ c ∈ ['0'], isDigit c := List.forall_mem_singleton.mpr rfl
  have denotes := denotes_fraction negative zero (by decide) _ (isDigit_of_mem_zeros count all)
  rw [Nat.ofDigitChars_append, Nat.ofDigitChars_append, Nat.ofDigitChars_replicate_zero] at denotes
  simpa [Nat.ofDigitChars_cons] using denotes

/-- Each zero behind the digits counts as a power of ten, but for the one behind the point. -/
theorem denotes_whole (all : ∀ c ∈ digits, isDigit c) (given : digits ≠ []) (count : Nat) :
    Denotes negative (digits ++ List.replicate count '0' ++ ['.', '0'])
      (Nat.ofDigitChars 10 digits 0 * 10 ^ (count : Int)) := by
  have padded : ∀ c ∈ digits ++ List.replicate count '0', isDigit c := by
    intro c mem
    rcases List.mem_append.mp mem with mem | zero
    · exact all c mem
    · rw [List.eq_of_mem_replicate zero]
      decide
  obtain ⟨number, exponent, reads, value⟩ := denotes_fraction negative padded
    (List.append_ne_nil_of_left_ne_nil given _) ['0'] (List.forall_mem_singleton.mpr rfl)
  refine ⟨number, exponent, reads, value.trans ?_⟩
  rw [Nat.ofDigitChars_append, Nat.ofDigitChars_append, Nat.ofDigitChars_replicate_zero,
    zpow_natCast]
  simp [Nat.ofDigitChars_cons]
  ring

/-- However the digits are laid out, they are read as a decimal of the same value. -/
theorem render_denotes (all : ∀ c ∈ digits, isDigit c) (given : digits ≠ []) (order : Int) :
    Denotes negative (Style.plain.render digits order)
      (Nat.ofDigitChars 10 digits 0 * 10 ^ (order + 1 - digits.length)) := by
  have positive := List.length_pos_iff.mpr given
  simp only [Style.render]
  split
  · exact denotes_scientific negative all given order
  · split
    · rename_i below
      have denotes := denotes_below_one negative all (order.natAbs - 1)
      have exponent : -((order.natAbs - 1 : Nat) + digits.length : Int) =
          order + 1 - digits.length := by omega
      rw [exponent] at denotes
      rw [if_neg (by simp [given])]
      exact denotes
    · rename_i least whole
      have zeros : order.toNat + 1 - (digits.take (order.toNat + 1)).length =
          order.toNat + 1 - digits.length := by
        rw [List.length_take]
        omega
      rw [zeros]
      by_cases fits : digits.length ≤ order.toNat + 1
      · have denotes := denotes_whole negative all given (order.toNat + 1 - digits.length)
        have exponent : ((order.toNat + 1 - digits.length : Nat) : Int) =
            order + 1 - digits.length := by omega
        rw [exponent] at denotes
        rw [List.take_of_length_le fits, List.drop_of_length_le fits]
        exact denotes
      · have first : digits.take (order.toNat + 1) ≠ [] := by
          rw [Ne, List.take_eq_nil_iff]
          simp [given]
        have denotes := denotes_fraction negative
          (fun c mem => all c (List.mem_of_mem_take mem)) first (digits.drop (order.toNat + 1))
          (fun c mem => all c (List.mem_of_mem_drop mem))
        rw [List.take_append_drop, List.length_drop] at denotes
        have exponent : -((digits.length - (order.toNat + 1) : Nat) : Int) =
            order + 1 - digits.length := by omega
        rw [exponent] at denotes
        have rest : (digits.drop (order.toNat + 1)).isEmpty = false := by
          rw [List.isEmpty_eq_false_iff, Ne, List.drop_eq_nil_iff]
          exact fits
        rw [Nat.sub_eq_zero_of_le (Nat.le_of_not_le fits), List.replicate_zero, List.append_nil,
          rest]
        exact denotes

theorem exponentText_clean (order : Int) : ∀ c ∈ exponentText order, c ∈ numeralChars := by
  have digits := isDigit_of_mem_zeros (2 - (Text.digitsOfNat order.natAbs).length)
    (digitsOfNat_isDigit order.natAbs)
  rw [exponentText, List.cons_append, List.cons_append, List.forall_mem_cons,
    List.forall_mem_cons]
  refine ⟨by decide, ?_, fun c mem => isDigit_mem (digits c mem)⟩
  split <;> decide

theorem render_clean (all : ∀ c ∈ digits, isDigit c) (order : Int) :
    ∀ c ∈ Style.plain.render digits order, c ∈ numeralChars := by
  have point : '.' ∈ numeralChars := by decide
  have zero : '0' ∈ numeralChars := by decide
  have part {cs : List Char} (h : cs.Sublist digits) : ∀ c ∈ cs, c ∈ numeralChars :=
    fun c mem => isDigit_mem (all c (h.subset mem))
  have zeros (n : Nat) : ∀ c ∈ List.replicate n '0', c ∈ numeralChars :=
    fun c mem => List.eq_of_mem_replicate mem ▸ zero
  have layout (whole fraction : List Char) (h : ∀ c ∈ whole, c ∈ numeralChars)
      (h' : ∀ c ∈ fraction, c ∈ numeralChars) :
      ∀ c ∈ (if fraction.isEmpty then
          if Style.plain.keepsFraction then whole ++ ['.', '0'] else whole
        else whole ++ '.' :: fraction), c ∈ numeralChars := by
    split
    · exact List.forall_mem_append.mpr ⟨h, List.all_iff_forall_prop.mp (by decide)⟩
    · exact List.forall_mem_append.mpr ⟨h, List.forall_mem_cons.mpr ⟨point, h'⟩⟩
  simp only [Style.render]
  split
  · rw [List.forall_mem_append, List.forall_mem_append]
    refine ⟨⟨part (List.take_sublist ..), ?_⟩, exponentText_clean order⟩
    split
    · exact List.forall_mem_nil _
    · exact List.forall_mem_cons.mpr ⟨point, part (List.drop_sublist ..)⟩
  · split
    · exact layout _ _ (List.forall_mem_singleton.mpr zero)
        (List.forall_mem_append.mpr ⟨zeros _, part (List.Sublist.refl _)⟩)
    · exact layout _ _ (List.forall_mem_append.mpr ⟨part (List.take_sublist ..), zeros _⟩)
        (part (List.drop_sublist ..))

/-- A rendered decimal starts with a digit. -/
theorem render_first (all : ∀ c ∈ digits, isDigit c) (given : digits ≠ []) (order : Int) :
    ∃ first rest, Style.plain.render digits order = first :: rest ∧ isDigit first := by
  obtain ⟨first, rest, rfl⟩ := List.exists_cons_of_ne_nil given
  have digit := all first List.mem_cons_self
  have layout (c : Char) (whole fraction : List Char) (h : isDigit c) :
      ∃ first rest, (if fraction.isEmpty then
          if Style.plain.keepsFraction then (c :: whole) ++ ['.', '0'] else c :: whole
        else (c :: whole) ++ '.' :: fraction) = first :: rest ∧ isDigit first := by
    split <;> exact ⟨c, _, rfl, h⟩
  simp only [Style.render]
  split
  · exact ⟨first, _, rfl, digit⟩
  · split
    · exact layout '0' [] _ (by decide)
    · exact layout first _ _ digit

end Rendering

section Values

variable {m number : Nat} {e exponent : Int}

/-- What is near a double is neither too large nor too small for one. -/
theorem Near.bounds {q : ℚ} (near : Near m e q) (double : InDouble m e) (pos : 0 < m) :
    (10 : ℚ) ^ (-326 : Int) ≤ q ∧ q < 10 ^ (311 : Int) := by
  have unit : (1 : ℚ) ≤ m := Nat.one_le_cast.mpr pos
  have small : (m : ℚ) + 1 ≤ 2 ^ 53 := by exact_mod_cast double.mantissa_lt
  have power : (0 : ℚ) < 2 ^ e := zpow_pos two_pos _
  have reached := reach_le m e
  constructor
  · calc (10 : ℚ) ^ (-326 : Int) ≤ 2 ^ (-1075 : Int) := ten_zpow_le (by decide) (by decide)
      _ ≤ 2 ^ (e - 1) := zpow_le_zpow_right₀ one_le_two (by have := double.least; omega)
      _ = 1 / 2 * 2 ^ e := by rw [zpow_sub_one₀ two_ne_zero]; ring
      _ ≤ (m - reach m e) * 2 ^ e := mul_le_mul_of_nonneg_right (by linarith) power.le
      _ ≤ q := near.low
  · calc q ≤ (m + 1 / 2) * 2 ^ e := near.high
      _ < 2 ^ 53 * 2 ^ e := mul_lt_mul_of_pos_right (by linarith) power
      _ ≤ 2 ^ 53 * 2 ^ (971 : Int) :=
        mul_le_mul_of_nonneg_left (zpow_le_zpow_right₀ one_le_two double.greatest) (by positivity)
      _ = 2 ^ 1024 := by
        rw [show (971 : Int) = (971 : ℕ) from rfl, zpow_natCast, ← pow_add]
      _ ≤ 10 ^ 311 := by exact_mod_cast two_pow_le (n := 1024) (k := 311) (by decide)
      _ = 10 ^ (311 : Int) := (zpow_natCast 10 311).symm

/-- The digits of a number bound it. -/
theorem digitsOfNat_bounds (pos : 0 < number) :
    (10 : ℚ) ^ ((Text.digitsOfNat number).length - 1 : Int) ≤ number ∧
      (number : ℚ) < 10 ^ ((Text.digitsOfNat number).length : Int) := by
  let width := (Text.digitsOfNat number).length
  have nonempty : 0 < width := Nat.length_toDigits_pos
  have upper : number < 10 ^ width :=
    (Nat.length_toDigits_le_iff (by decide) nonempty).mp (Nat.le_refl _)
  have lower : 10 ^ (width - 1) ≤ number := by
    rcases Nat.eq_zero_or_pos (width - 1) with one | more
    · rw [one]
      exact pos
    · refine Nat.le_of_not_lt fun less => ?_
      have shorter := (Nat.length_toDigits_le_iff (by decide) more).mpr less
      exact absurd shorter (by show ¬ width ≤ width - 1; omega)
  constructor
  · rw [show ((Text.digitsOfNat number).length - 1 : Int) = ((width - 1 : ℕ) : Int) by omega,
      zpow_natCast]
    exact_mod_cast lower
  · rw [zpow_natCast]
    exact_mod_cast upper

/-- A decimal near a double is read as the double. -/
theorem ofDecimal_of_near (negative : Bool) (double : InDouble m e) (hm : 0 < m)
    (near : Near m e (number * 10 ^ exponent)) :
    ofDecimal negative number exponent = .ofBits (.ofNat (composeBits negative m e)) := by
  have ten : (1 : ℚ) < 10 := by norm_num
  have power : (0 : ℚ) < 10 ^ exponent := zpow_pos (by norm_num) _
  obtain ⟨above, below⟩ := near.bounds double hm
  have hnumber : 0 < number := by
    rw [Nat.pos_iff_ne_zero]
    rintro rfl
    rw [Nat.cast_zero, zero_mul] at above
    exact absurd above (not_le.mpr (zpow_pos (by norm_num) _))
  obtain ⟨lower, upper⟩ := digitsOfNat_bounds hnumber
  have small : exponent + ((Text.digitsOfNat number).length - 1) < 311 := by
    apply (zpow_lt_zpow_iff_right₀ ten).mp
    rw [zpow_add₀ (by norm_num), mul_comm]
    exact (mul_le_mul_of_nonneg_right lower power.le).trans_lt below
  have large : -326 < exponent + (Text.digitsOfNat number).length := by
    apply (zpow_lt_zpow_iff_right₀ ten).mp
    rw [zpow_add₀ (by norm_num), mul_comm]
    exact above.trans_lt (mul_lt_mul_of_pos_right upper power)
  have numerator : 0 < (gridFraction number exponent).1 := by
    cases exponent with
    | ofNat e => exact Nat.mul_pos hnumber (Nat.pow_pos (by decide))
    | negSucc e => exact hnumber
  rw [← gridFraction_value] at near
  have rounded := nearest_of_near numerator (gridFraction_pos number exponent) double near
  have nearest : nearestDouble negative (gridFraction number exponent).1
      (gridFraction number exponent).2 = .ofBits (.ofNat (composeBits negative m e)) := by
    rw [nearestDouble, nearestDouble?, if_neg numerator.ne', rounded]
    rfl
  simp only [ofDecimal]
  rw [if_neg hnumber.ne', if_neg (by omega), if_neg (by omega), ← nearest]
  cases exponent <;> rfl

end Values

/-- What starts with a digit is no word for an infinite or missing number. -/
theorem ne_word {first : Char} (digit : isDigit first) (rest : List Char)
    (word : String) (letter : word.toList.head? = some 'i' ∨ word.toList.head? = some 'n') :
    String.ofList ((first :: rest).map Char.toLower) ≠ word := by
  have all : ∀ n < 58, 48 ≤ n → (Char.ofNat n).toLower ≠ 'i' ∧ (Char.ofNat n).toLower ≠ 'n' := by
    decide
  obtain ⟨low, high⟩ := isDigit_iff.mp digit
  obtain ⟨i, n⟩ := all first.toNat (by omega) low
  rw [Char.ofNat_toNat] at i n
  rintro rfl
  rw [String.toList_ofList, List.map_cons, List.head?_cons, Option.some_inj,
    Option.some_inj] at letter
  exact letter.elim i n

/-- A magnitude is read after any sign. -/
theorem readSigned?_magnitude (negative : Bool) {first : Char} (digit : isDigit first)
    (rest : List Char) :
    readSigned? (if negative then '-' :: first :: rest else first :: rest) =
      readMagnitude? negative (first :: rest) := by
  have signed : takeSign (if negative then '-' :: first :: rest else first :: rest) =
      (negative, first :: rest) := by
    cases negative with
    | true => rfl
    | false =>
        show takeSign (first :: rest) = _
        rw [takeSign]
        · intro _ same
          rw [(List.cons.inj same).1] at digit
          exact absurd digit (by decide)
        · intro _ same
          rw [(List.cons.inj same).1] at digit
          exact absurd digit (by decide)
  have inf := ne_word digit rest "inf" (.inl rfl)
  have infinity := ne_word digit rest "infinity" (.inl rfl)
  have nan := ne_word digit rest "nan" (.inr rfl)
  simp only [readSigned?, signed, inf, infinity, nan, decide_false, Bool.or_self,
    Bool.false_eq_true, ↓reduceIte]

/-- The shortest text of a double is clean, and the double is read back from it. -/
theorem plain_reads (x : Float) :
    (∀ c ∈ (plain x).toList, c ∈ numeralChars) ∧ readFloat? (plain x) = some x := by
  rw [plain, Style.format]
  split
  · rename_i parts
    rw [← notANumber_of_parts x parts]
    exact ⟨List.all_iff_forall_prop.mp (by decide +kernel), by decide +kernel⟩
  · rename_i negative parts
    rw [← infinity_of_parts x parts]
    cases negative <;>
      exact ⟨List.all_iff_forall_prop.mp (by decide +kernel), by decide +kernel⟩
  · rename_i negative mantissa exponent parts
    have double := inDouble_of_parts x parts
    rw [← composeBits_of_parts x parts]
    split
    · rename_i none
      rw [none, composeBits_zero]
      cases negative <;>
        exact ⟨List.all_iff_forall_prop.mp (by decide +kernel), by decide +kernel⟩
    · rename_i positive
      have pos := Nat.pos_of_ne_zero positive
      let decimal := shortest mantissa exponent
      obtain ⟨hdigits, near⟩ := shortest_near double pos
      have all := digitsOfNat_isDigit decimal.digits
      have given : Text.digitsOfNat decimal.digits ≠ [] := Nat.toDigits_ne_nil
      let order : Int := decimal.exponent + (Text.digitsOfNat decimal.digits).length - 1
      let magnitude := Style.plain.render (Text.digitsOfNat decimal.digits) order
      have clean : ∀ c ∈ (if negative then '-' :: magnitude else magnitude), c ∈ numeralChars := by
        have digits := render_clean all order
        split
        · exact List.forall_mem_cons.mpr ⟨by decide, digits⟩
        · exact digits
      obtain ⟨first, rest, text, digit⟩ := render_first all given order
      obtain ⟨number, exponent', reads, value⟩ := render_denotes negative all given order
      rw [show order + 1 - (Text.digitsOfNat decimal.digits).length = decimal.exponent by omega,
        show Nat.ofDigitChars 10 (Text.digitsOfNat decimal.digits) 0 = decimal.digits from
          Nat.ofDigitChars_ten_toDigits] at value
      rw [← value] at near
      have result := ofDecimal_of_near negative double pos near
      rw [text] at reads
      refine ⟨by rw [String.toList_ofList]; exact clean, ?_⟩
      rw [readFloat?_of_clean clean]
      show readSigned? (if negative then '-' :: Style.plain.render _ order else
        Style.plain.render _ order) = _
      rw [text, readSigned?_magnitude negative digit, reads, result]

end SignalGraph.Decimal
