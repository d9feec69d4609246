import SignalGraph.Proofs.Decimal.Canonical
import SignalGraph.Proofs.Decimal.Closest

/-!
Exact sums. A sum that is itself the value of a double is rounded to that value. So whole numbers
add up exactly as long as they stay within `2 ^ 53`.
-/

namespace SignalGraph.Decimal

open Float.Model

section Rounding

/-- The target exponent of a mantissa is that of the double with its value. -/
theorem InDouble.target {m M : Nat} {e E : Int} (double : InDouble m e) (pos : 0 < m)
    (pos' : 0 < M) (same : (M : ℚ) * 2 ^ E = m * 2 ^ e) :
    Format.binary64.targetExponent (totalExponent M E) = e := by
  have bounds {n : Nat} (f : Int) (pos : 0 < n) :
      (2 : ℚ) ^ ((n.log2 : Int) + f) ≤ n * 2 ^ f ∧ (n : ℚ) * 2 ^ f < 2 ^ ((n.log2 : Int) + 1 + f) := by
    rw [zpow_add₀ two_ne_zero, zpow_add₀ two_ne_zero]
    have power : (0 : ℚ) < 2 ^ f := zpow_pos two_pos f
    exact ⟨mul_le_mul_of_nonneg_right (log2_le_value pos) power.le,
      mul_lt_mul_of_pos_right (value_lt_log2 n) power⟩
  have order : (M.log2 : Int) + E = m.log2 + e := by
    obtain ⟨low, high⟩ := bounds E pos'
    obtain ⟨low', high'⟩ := bounds e pos
    rw [same] at low high
    have le := (zpow_lt_zpow_iff_right₀ one_lt_two).mp (low.trans_lt high')
    have ge := (zpow_lt_zpow_iff_right₀ one_lt_two).mp (low'.trans_lt high)
    omega
  have digits : ((Format.binary64.mantissaBits : Nat) : Int) = 53 := rfl
  have least : Format.binary64.minExponent = -1074 := rfl
  have small : m.log2 < 53 := (Nat.log2_lt pos.ne').mpr double.mantissa_lt
  have above := double.least
  rw [Format.targetExponent, totalExponent, digits, least]
  rcases double.leading with leading | least
  · have normal : 52 ≤ m.log2 := (Nat.le_log2 pos.ne').mpr leading
    omega
  · omega

/-- Zeros that are shifted out leave a mantissa exact. -/
theorem shift_exact (m count : Nat) :
    (UnpackedFloat.ExtendedMantissa.ofMantissaAndAccuracy (m * 2 ^ count) .exact) >>> count =
      UnpackedFloat.ExtendedMantissa.ofMantissaAndAccuracy m .exact := by
  induction count generalizing m with
  | zero => rw [pow_zero, mul_one]; rfl
  | succ count ih =>
      have step := ih (m * 2)
      rw [mul_assoc, ← pow_succ'] at step
      show UnpackedFloat.ExtendedMantissa.shiftRightOne
        (UnpackedFloat.ExtendedMantissa.ofMantissaAndAccuracy (m * 2 ^ (count + 1)) .exact >>>
          count) = _
      rw [step]
      simp [UnpackedFloat.ExtendedMantissa.shiftRightOne,
        UnpackedFloat.ExtendedMantissa.ofMantissaAndAccuracy]

/-- A mantissa with zeros behind that of a double is shifted to that of the double. -/
theorem InDouble.shift {m : Nat} {e : Int} (double : InDouble m e) (pos : 0 < m) (count : Nat) :
    UnpackedFloat.shiftToTargetExponent .binary64 (m * 2 ^ count) (e - count) .exact =
      (UnpackedFloat.ExtendedMantissa.ofMantissaAndAccuracy m .exact, e) := by
  have same : ((m * 2 ^ count : Nat) : ℚ) * 2 ^ (e - count) = m * 2 ^ e := by
    rw [zpow_sub₀ two_ne_zero, zpow_natCast]
    push_cast
    field_simp
  have target := double.target pos (Nat.mul_pos pos (Nat.two_pow_pos count)) same
  have amount : (e - (e - (count : Int))).toNat = count := by omega
  rw [UnpackedFloat.shiftToTargetExponent, UnpackedFloat.shiftToExponent, target, amount,
    shift_exact]
  congr 1
  omega

/-- Rounding keeps the value of a double. -/
theorem InDouble.round {m M : Nat} {e E : Int} (double : InDouble m e) (pos : 0 < m) (pos' : 0 < M)
    (same : (M : ℚ) * 2 ^ E = m * 2 ^ e) (s : UnpackedFloat.Sign) :
    UnpackedFloat.round .binary64 s M E = .finite s m e pos := by
  have target := double.target pos pos' same
  -- as many zeros as take the exponent of the double down to the other one, if that is lower
  let count := (e - E).toNat
  have exponent : E - ((E - e).toNat : Int) = e - count := by omega
  have mantissa : M <<< (E - e).toNat = m * 2 ^ count := by
    rw [Nat.shiftLeft_eq]
    exact shift_of_same same
  rw [UnpackedFloat.round, target, UnpackedFloat.decreaseExponent, mantissa, exponent]
  have stays := double.shift pos 0
  rw [pow_zero, mul_one, Nat.cast_zero, sub_zero] at stays
  have kept : (UnpackedFloat.ExtendedMantissa.ofMantissaAndAccuracy m .exact).roundedMantissa =
      m := rfl
  simp only [UnpackedFloat.roundWithAccuracy, double.shift pos count, kept, stays]
  exact dif_neg pos.ne'

end Rounding

section Packing

/-- A mantissa with its leading bit is packed without it. -/
theorem unpack_pack_normal {m : Nat} {e : Int} (pos : 0 < m) (leading : 2 ^ 52 ≤ m)
    (small : m < 2 ^ 53) (least : -1074 ≤ e) (greatest : e ≤ 971) (s : UnpackedFloat.Sign) :
    (pack (.finite s m e pos)).unpack = .finite s m e pos := by
  have bias : ((Format.binary64.exponentBias : Nat) : Int) = 1023 := rfl
  have width : ((Format.binary64.mantissaBitsWithoutImplicit : Nat) : Int) = 52 := rfl
  have digits : Format.binary64.mantissaBits = 53 := rfl
  have order : m.log2 = 52 := (Nat.log2_eq_iff pos.ne').mpr ⟨leading, small⟩
  have field : (BitVec.ofNat 11 (e + 1023 + 52).toNat).toNat = (e + 1023 + 52).toNat := by
    rw [BitVec.toNat_ofNat]
    omega
  have fraction : (BitVec.ofNat 52 m).toNat = m - 2 ^ 52 := by
    rw [BitVec.toNat_ofNat]
    omega
  have whole : (1#1 ++ BitVec.ofNat 52 m).toNat = m := by
    rw [BitVec.toNat_append, ← Nat.shiftLeft_add_eq_or_of_lt (BitVec.isLt _), fraction]
    show 1 <<< 52 + (m - 2 ^ 52) = m
    rw [Nat.one_shiftLeft]
    omega
  have ordinary : BitVec.ofNat 11 (e + 1023 + 52).toNat ≠ -1#11 := by
    rw [Ne, ← BitVec.toNat_inj, field, show (-1#11).toNat = 2047 from rfl]
    omega
  have positive : BitVec.ofNat 11 (e + 1023 + 52).toNat ≠ 0#11 := by
    rw [Ne, ← BitVec.toNat_inj, field, show (0#11).toNat = 0 from rfl]
    omega
  show UnpackedFloat.unpack .binary64 (UnpackedFloat.pack .binary64 (.finite s m e pos)) = _
  rw [UnpackedFloat.pack]
  simp only [bias, width, digits]
  rw [if_neg (by omega), if_pos (by omega), UnpackedFloat.unpack]
  simp only [UnpackedFloat.unpackExponent_packComponents,
    UnpackedFloat.unpackMantissa_packComponents, UnpackedFloat.unpackSign_packComponents,
    UnpackedFloat.Sign.ofBitVec_toBitVec, bias, width]
  rw [if_neg ordinary, if_neg positive]
  simp only [whole, field]
  congr 1
  omega

/-- A mantissa without its leading bit is packed as it is. -/
theorem unpack_pack_subnormal {m : Nat} (pos : 0 < m) (small : m < 2 ^ 52)
    (s : UnpackedFloat.Sign) :
    (pack (.finite s m (-1074) pos)).unpack = .finite s m (-1074) pos := by
  have bias : ((Format.binary64.exponentBias : Nat) : Int) = 1023 := rfl
  have width : ((Format.binary64.mantissaBitsWithoutImplicit : Nat) : Int) = 52 := rfl
  have digits : Format.binary64.mantissaBits = 53 := rfl
  have order : m.log2 < 52 := (Nat.log2_lt pos.ne').mpr small
  have fraction : (BitVec.ofNat 52 m).toNat = m := by
    rw [BitVec.toNat_ofNat]
    omega
  have positive : BitVec.ofNat 52 m ≠ 0#52 := by
    rw [Ne, ← BitVec.toNat_inj, fraction]
    exact pos.ne'
  show UnpackedFloat.unpack .binary64 (UnpackedFloat.pack .binary64 (.finite s m (-1074) pos)) = _
  rw [UnpackedFloat.pack]
  simp only [bias, width, digits]
  rw [if_neg (by omega), if_neg (by omega), UnpackedFloat.unpack]
  simp only [UnpackedFloat.unpackExponent_packComponents,
    UnpackedFloat.unpackMantissa_packComponents, UnpackedFloat.unpackSign_packComponents,
    UnpackedFloat.Sign.ofBitVec_toBitVec, bias, width]
  rw [if_neg (by decide), if_pos trivial, dif_neg positive]
  simp only [fraction]
  rfl

/-- A double is unpacked to what it has been packed from. -/
theorem InDouble.unpack_pack {m : Nat} {e : Int} (double : InDouble m e) (pos : 0 < m)
    (s : UnpackedFloat.Sign) : (pack (.finite s m e pos)).unpack = .finite s m e pos := by
  rcases Nat.lt_or_ge m (2 ^ 52) with small | leading
  · obtain rfl := double.leading.resolve_left (Nat.not_le.mpr small)
    exact unpack_pack_subnormal pos small s
  · exact unpack_pack_normal pos leading double.mantissa_lt double.least double.greatest s

theorem unpack_pack_view (x : Float) : (pack (view x)).unpack = view x :=
  congrArg (UnpackedFloat.unpack .binary64) (UnpackedFloat.pack_unpack_of_valid x.toModel.valid)

end Packing

section Sums

/-- The rational number that an unpacked double stands for. -/
def valueOf? : UnpackedFloat → Option ℚ
  | .zero _ => some 0
  | .finite s m e _ => some (s.apply m * 2 ^ e)
  | _ => none

/-- A double stands for a rational number. Both zeros stand for zero. -/
def StandsFor (x : Float) (q : ℚ) : Prop := valueOf? (view x) = some q

/-- Some double stands for a rational number, up to its sign. -/
def IsDouble (q : ℚ) : Prop := ∃ m e, InDouble m e ∧ |q| = m * 2 ^ e

theorem valueOf?_normalize {M E : Int} (double : IsDouble ((M : ℚ) * 2 ^ E))
    (s : UnpackedFloat.Sign) :
    valueOf? (pack (UnpackedFloat.normalize .binary64 M E s)).unpack =
      some ((M : ℚ) * 2 ^ E) := by
  obtain ⟨m, e, double, size⟩ := double
  have power : (0 : ℚ) < 2 ^ E := zpow_pos two_pos E
  rw [abs_mul, abs_of_pos power] at size
  have rounds : ∀ t : UnpackedFloat.Sign, ∀ N : Nat, 0 < N → |(M : ℚ)| = N → M = t.apply N →
      valueOf? (pack (UnpackedFloat.round .binary64 t N E)).unpack =
        some ((M : ℚ) * 2 ^ E) := by
    intro t N positive magnitude signed
    rw [magnitude] at size
    have pos : 0 < m := by
      by_contra zero
      obtain rfl : m = 0 := by omega
      rw [Nat.cast_zero, zero_mul, mul_eq_zero] at size
      rcases size with zero | zero
      · exact positive.ne' (Nat.cast_eq_zero.mp zero)
      · exact power.ne' zero
    rw [double.round pos positive size, double.unpack_pack, valueOf?, signed]
    cases t <;> simp [UnpackedFloat.Sign.apply, size]
  rcases lt_trichotomy M 0 with below | rfl | above
  · rw [UnpackedFloat.normalize, show compare M 0 = .lt from Int.compare_eq_lt.mpr below]
    apply rounds
    · omega
    · rw [abs_of_neg (by exact_mod_cast below)]
      exact_mod_cast (Int.toNat_of_nonneg (by omega : 0 ≤ -M)).symm
    · rw [UnpackedFloat.Sign.apply]
      omega
  · have zero : UnpackedFloat.normalize .binary64 0 E s = .zero s := rfl
    rw [zero, unpack_pack_zero, valueOf?, Int.cast_zero, zero_mul]
  · rw [UnpackedFloat.normalize, show compare M 0 = .gt from Int.compare_eq_gt.mpr above]
    apply rounds
    · omega
    · rw [abs_of_pos (by exact_mod_cast above)]
      exact_mod_cast (Int.toNat_of_nonneg above.le).symm
    · rw [UnpackedFloat.Sign.apply]
      omega

/-- A mantissa that is brought to a lower exponent keeps its value. -/
theorem decreaseExponent_value (s : UnpackedFloat.Sign) (m : Nat) {e target : Int}
    (lower : target ≤ e) :
    (s.apply (UnpackedFloat.decreaseExponent m e target).1 : ℚ) * 2 ^ target =
      s.apply m * 2 ^ e := by
  rw [UnpackedFloat.decreaseExponent, Nat.shiftLeft_eq, two_zpow_of_le lower]
  cases s <;> simp only [UnpackedFloat.Sign.apply] <;> push_cast <;> ring

/-- What stands for a number is a zero, or finite. -/
theorem valueOf?_eq_some {u : UnpackedFloat} {q : ℚ} :
    valueOf? u = some q ↔ (∃ s, u = .zero s ∧ q = 0) ∨
      ∃ s m e pos, u = .finite s m e pos ∧ q = s.apply m * 2 ^ e := by
  cases u with
  | finite s m e pos => simp [valueOf?, pos, eq_comm]
  | _ => simp [valueOf?, eq_comm]

variable {x y : Float} {a b : ℚ}

/-- A sum of doubles that some double stands for is that sum. -/
theorem StandsFor.add (hx : StandsFor x a) (hy : StandsFor y b) (double : IsDouble (a + b)) :
    StandsFor (x + y) (a + b) := by
  have sum : view (x + y) = (pack ((view x).add .binary64 (view y))).unpack := rfl
  have repack := unpack_pack_view x
  have repack' := unpack_pack_view y
  have hx' := hx
  have hy' := hy
  rw [StandsFor, valueOf?_eq_some] at hx' hy'
  rw [StandsFor, sum]
  rcases hx' with ⟨s, hu, rfl⟩ | ⟨s, m, e, pos, hu, rfl⟩ <;>
    rcases hy' with ⟨t, hv, rfl⟩ | ⟨t, n, f, pos', hv, rfl⟩
  · obtain ⟨r, same⟩ : ∃ r, (view x).add .binary64 (view y) = .zero r := by
      rw [hu, hv, UnpackedFloat.add]
      split <;> exact ⟨_, rfl⟩
    rw [same, unpack_pack_zero, valueOf?, add_zero]
  · have same : (view x).add .binary64 (view y) = view y := by rw [hu, hv]; rfl
    rw [same, repack', zero_add]
    exact hy
  · have same : (view x).add .binary64 (view y) = view x := by rw [hu, hv]; rfl
    rw [same, repack, add_zero]
    exact hx
  · let least := min e f
    let M := s.apply (UnpackedFloat.decreaseExponent m e least).1 +
      t.apply (UnpackedFloat.decreaseExponent n f least).1
    have same : (view x).add .binary64 (view y) =
        UnpackedFloat.normalize .binary64 M least .positive := by rw [hu, hv]; rfl
    have value : (M : ℚ) * 2 ^ least = s.apply m * 2 ^ e + t.apply n * 2 ^ f := by
      rw [Int.cast_add, add_mul, decreaseExponent_value s m (min_le_left e f),
        decreaseExponent_value t n (min_le_right e f)]
    rw [← value] at double ⊢
    rw [same]
    exact valueOf?_normalize double _

end Sums

section Wholes

theorem inDouble_iff {m : Nat} {e : Int} : InDouble m e ↔ BinaryFormat.double.Holds m e :=
  ⟨fun h => ⟨h.mantissa_lt, h.least, h.greatest, h.leading⟩,
    fun h => ⟨h.mantissa_lt, h.least, h.greatest, h.leading⟩⟩

/-- Mantissas that are not too wide make doubles, with a leading bit or without. -/
theorem isDouble_of_mantissa {q : ℚ} {m : Nat} {e : Int} (size : |q| = m * 2 ^ e)
    (small : m < 2 ^ 53) (least : -1074 ≤ e) (greatest : e ≤ 971) : IsDouble q := by
  obtain ⟨m', e', holds, same⟩ := BinaryFormat.double.exists_holds small least greatest
  exact ⟨m', e', inDouble_iff.mpr holds, size.trans same.symm⟩

/-- Up to `2 ^ 53` every whole number has a double. -/
theorem isDouble_of_le {n : Int} (within : n.natAbs ≤ 2 ^ 53) : IsDouble n := by
  have size : |(n : ℚ)| = n.natAbs := by rw [Nat.cast_natAbs, Int.cast_abs]
  rcases Nat.lt_or_eq_of_le within with small | last
  · apply isDouble_of_mantissa _ small (show -1074 ≤ 0 by omega) (by omega)
    rw [size, zpow_zero, mul_one]
  · apply isDouble_of_mantissa _ (show 2 ^ 52 < 2 ^ 53 by omega) (show -1074 ≤ 1 by omega)
      (by omega)
    rw [size, last]
    norm_num

theorem standsFor_zero : StandsFor 0.0 0 := rfl

theorem standsFor_one : StandsFor 1.0 1 := by
  have unpacked : view 1.0 = .finite .positive (2 ^ 52) (-52) (by decide) := rfl
  rw [StandsFor, unpacked, valueOf?, UnpackedFloat.Sign.apply]
  norm_num

theorem standsFor_neg_one : StandsFor (-1.0) (-1) := by
  have unpacked : view (-1.0) = .finite .negative (2 ^ 52) (-52) (by decide) := rfl
  rw [StandsFor, unpacked, valueOf?, UnpackedFloat.Sign.apply]
  norm_num

/-- One less is the sum with minus one. -/
theorem sub_one (x : Float) : x - 1.0 = x + -1.0 := by
  have same : (view x).sub .binary64 (view 1.0) = (view x).add .binary64 (view (-1.0)) := by
    cases view x <;> rfl
  exact congrArg (fun u => Float.ofModel (pack u)) same

variable {x : Float} {n : Int}

theorem StandsFor.add_one (h : StandsFor x n) (within : (n + 1).natAbs ≤ 2 ^ 53) :
    StandsFor (x + 1.0) ↑(n + 1) := by
  have double := isDouble_of_le within
  rw [Int.cast_add, Int.cast_one] at double ⊢
  exact h.add standsFor_one double

theorem StandsFor.sub_one (h : StandsFor x n) (within : (n - 1).natAbs ≤ 2 ^ 53) :
    StandsFor (x - 1.0) ↑(n - 1) := by
  have double := isDouble_of_le within
  rw [Int.cast_sub, Int.cast_one, sub_eq_add_neg] at double ⊢
  rw [Decimal.sub_one]
  exact h.add standsFor_neg_one double

end Wholes

end SignalGraph.Decimal
