import Mathlib
import SignalGraph.Decimal.Numeral
import SignalGraph.Proofs.Text.Words

/-!
Reading what the library itself writes as a number. In such a text there are no blanks, no
underscores and no digits of other scripts, so that it is read as it stands.
-/

namespace SignalGraph.Decimal

section Clean

/-- The characters in which the library writes numbers. -/
def numeralChars : List Char := "0123456789+-.einfa".toList

theorem numeralChars_clean : ∀ c ∈ numeralChars,
    Text.isNumeralBlank c = false ∧ c ≠ '_' ∧ (Text.digitValue? c).all (Nat.digitChar · = c) :=
  List.all_iff_forall_prop.mp (by decide +kernel)

theorem numeralChars_solid : ∀ c ∈ numeralChars, Text.isBlank c = false :=
  List.all_iff_forall_prop.mp (by decide +kernel)

theorem isDigit_iff {c : Char} : isDigit c ↔ 48 ≤ c.toNat ∧ c.toNat ≤ 57 := by
  simp only [isDigit, Bool.and_eq_true, decide_eq_true_eq, Char.le_def]
  exact Iff.rfl

theorem isDigit_mem {c : Char} (h : isDigit c) : c ∈ numeralChars := by
  have all : ∀ n < 58, 48 ≤ n → Char.ofNat n ∈ numeralChars := by decide
  obtain ⟨low, high⟩ := isDigit_iff.mp h
  rw [← Char.ofNat_toNat c]
  exact all c.toNat (by omega) low

variable {cs : List Char}

theorem normalizeNumeral_of_clean (clean : ∀ c ∈ cs, c ∈ numeralChars) :
    normalizeNumeral (String.ofList cs) = cs := by
  rw [normalizeNumeral, String.toList_ofList,
    Text.strip_of_none fun c mem => (numeralChars_clean c (clean c mem)).1]
  refine (List.map_congr_left fun c mem => ?_).trans (List.map_id' cs)
  have digit := (numeralChars_clean c (clean c mem)).2.2
  split
  · rename_i d found
    rw [found] at digit
    exact of_decide_eq_true digit
  · rfl

theorem dropUnderscores_of_none {digit : Char → Bool} (h : '_' ∉ cs) (before : Option Char) :
    dropUnderscores digit before cs = some cs := by
  induction cs generalizing before with
  | nil => rfl
  | cons c cs ih =>
      rw [List.mem_cons, not_or] at h
      rw [dropUnderscores, ih h.2]
      · rfl
      · exact fun same => h.1 same.symm

theorem readFloat?_of_clean (clean : ∀ c ∈ cs, c ∈ numeralChars) :
    readFloat? (String.ofList cs) = readSigned? cs := by
  have none : '_' ∉ cs := fun mem => (numeralChars_clean '_' (clean '_' mem)).2.1 rfl
  rw [readFloat?, normalizeNumeral_of_clean clean, dropUnderscores_of_none none]
  rfl

end Clean

section Integers

theorem digitsOfNat_isDigit (n : Nat) : ∀ c ∈ Text.digitsOfNat n, isDigit c := by
  intro c mem
  have digit := Nat.isDigit_of_mem_toDigits (by decide) (by decide) mem
  simp only [Char.isDigit, Bool.and_eq_true, decide_eq_true_eq] at digit
  exact isDigit_iff.mpr digit

theorem natOfDigits_digitValues (cs : List Char) :
    Text.natOfDigits (digitValues cs) = Nat.ofDigitChars 10 cs 0 := by
  rw [Text.natOfDigits, digitValues, List.foldl_map, Nat.ofDigitChars_eq_foldl]

theorem digitIn?_of_isDigit {c : Char} (h : isDigit c) :
    digitIn? 10 c = some (c.toNat - '0'.toNat) := by
  obtain ⟨low, high⟩ := isDigit_iff.mp h
  have small : c.toNat - '0'.toNat < 10 := by
    show c.toNat - 48 < 10
    omega
  simp only [digitIn?, h, ↓reduceIte, Option.filter_some, decide_eq_true small]

theorem filterMap_digits {cs : List Char} (h : ∀ c ∈ cs, isDigit c) :
    cs.filterMap (digitIn? 10) = digitValues cs := by
  rw [digitValues, ← List.filterMap_eq_map]
  exact List.filterMap_congr fun c mem => digitIn?_of_isDigit (h c mem)

theorem dropBaseMark_ten (cs : List Char) : dropBaseMark 10 cs = cs := by
  simp only [dropBaseMark]
  split <;> rfl

/-- The digits of a number are read as the number, under any sign. -/
theorem readInt_digits {s : String} (negative : Bool) (n : Nat)
    (signed : takeSign (normalizeNumeral s) = (negative, Text.digitsOfNat n))
    (short : n < 10 ^ intDigitLimit) :
    readInt s = .ok (if negative then -(n : Int) else n) := by
  have digits := digitsOfNat_isDigit n
  have run : (Text.digitsOfNat n).takeWhile
      (fun c => (digitIn? 10 c).isSome || decide (c = '_')) = Text.digitsOfNat n := by
    rw [List.takeWhile_eq_self_iff]
    intro c mem
    rw [digitIn?_of_isDigit (digits c mem)]
    rfl
  have none : '_' ∉ Text.digitsOfNat n := fun mem => absurd (digits '_' mem) (by decide)
  have length : (Text.digitsOfNat n).length ≤ intDigitLimit :=
    (Nat.length_toDigits_le_iff (by decide) (by decide)).mpr short
  have value : ((Text.digitsOfNat n).filterMap (digitIn? 10)).foldl (fun m d => 10 * m + d) 0 =
      n := by
    rw [filterMap_digits digits]
    exact (natOfDigits_digitValues _).trans Nat.ofDigitChars_ten_toDigits
  have nonempty : (Text.digitsOfNat n).isEmpty = false :=
    List.isEmpty_eq_false_iff.mpr Nat.toDigits_ne_nil
  simp only [readInt, readIntIn, signed, dropBaseMark_ten, run, dropUnderscores_of_none none, value,
    nonempty, Nat.not_lt.mpr length, lt_irrefl]
  rfl

theorem takeSign_digits {cs : List Char} (digits : ∀ c ∈ cs, isDigit c) :
    takeSign cs = (false, cs) := by
  cases cs with
  | nil => rfl
  | cons c cs =>
      have first := digits c List.mem_cons_self
      rw [takeSign]
      · intro _ same
        rw [(List.cons.inj same).1] at first
        exact absurd first (by decide)
      · intro _ same
        rw [(List.cons.inj same).1] at first
        exact absurd first (by decide)

/-- The text of an integer is clean. -/
theorem ofInt_clean (n : Int) : ∀ c ∈ (Text.ofInt n).toList, c ∈ numeralChars := by
  have digits (n : Nat) : ∀ c ∈ Text.digitsOfNat n, c ∈ numeralChars :=
    fun c mem => isDigit_mem (digitsOfNat_isDigit n c mem)
  cases n with
  | ofNat n =>
      rw [Text.ofInt, String.toList_ofList]
      exact digits n
  | negSucc n =>
      rw [Text.ofInt, String.toList_ofList]
      exact List.forall_mem_cons.mpr ⟨by decide, digits (n + 1)⟩

/-- An integer is read back from its text, unless it has more digits than are read. -/
theorem readInt_ofInt {n : Int} (short : n.natAbs < 10 ^ intDigitLimit) :
    readInt (Text.ofInt n) = .ok n := by
  have clean := normalizeNumeral_of_clean (ofInt_clean n)
  rw [String.ofList_toList] at clean
  cases n with
  | ofNat n =>
      refine readInt_digits false n ?_ short
      rw [clean, Text.ofInt, String.toList_ofList, takeSign_digits (digitsOfNat_isDigit n)]
  | negSucc n =>
      refine readInt_digits true (n + 1) ?_ short
      rw [clean, Text.ofInt, String.toList_ofList]
      rfl

theorem digitIn?_lt {base d : Nat} {c : Char} (h : digitIn? base c = some d) : d < base :=
  of_decide_eq_true (Option.filter_eq_some_iff.mp h).2

theorem foldl_digits_lt {ds : List Nat} (small : ∀ d ∈ ds, d < 10) (n : Nat) :
    ds.foldl (fun n d => 10 * n + d) n < (n + 1) * 10 ^ ds.length := by
  induction ds generalizing n with
  | nil => simp
  | cons d ds ih =>
      rw [List.forall_mem_cons] at small
      have next : 10 * n + d + 1 ≤ (n + 1) * 10 := by omega
      calc ds.foldl (fun n d => 10 * n + d) (10 * n + d)
          < (10 * n + d + 1) * 10 ^ ds.length := ih small.2 _
        _ ≤ (n + 1) * 10 * 10 ^ ds.length := Nat.mul_le_mul_right _ next
        _ = (n + 1) * 10 ^ (d :: ds).length := by
              rw [List.length_cons, Nat.pow_succ', Nat.mul_assoc]

/-- Only so many digits are read. -/
theorem natAbs_lt_of_readInt {s : String} {n : Int} (h : readInt s = .ok n) :
    n.natAbs < 10 ^ intDigitLimit := by
  simp only [readInt, readIntIn] at h
  split at h
  · cases h
  · rename_i digits _
    split at h
    · cases h
    · rename_i short
      split at h
      · cases h
      · have values : (digits.filterMap (digitIn? 10)).length ≤ intDigitLimit := by
          have few : digits.length ≤ intDigitLimit := by simpa using short
          exact (List.length_filterMap_le ..).trans few
        have small : ∀ d ∈ digits.filterMap (digitIn? 10), d < 10 := by
          intro d mem
          obtain ⟨c, -, found⟩ := List.mem_filterMap.mp mem
          exact digitIn?_lt found
        have magnitude := foldl_digits_lt small 0
        rw [Nat.zero_add, Nat.one_mul] at magnitude
        have bound := magnitude.trans_le (Nat.pow_le_pow_right (by decide) values)
        rw [← Except.ok.inj h]
        split
        · rw [Int.natAbs_neg]
          exact bound
        · exact bound

end Integers

end SignalGraph.Decimal
