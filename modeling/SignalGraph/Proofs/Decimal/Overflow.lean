import SignalGraph.Proofs.Decimal.Closest

/-!
Integers beyond all doubles. An integer is too large from the middle between the greatest double and
the power of two behind it on. The middle itself is a tie that goes to the even mantissa, which is
the one of the power of two.
-/

namespace SignalGraph.Decimal

section Limits

/-- The middle between the greatest double and the power of two behind it. -/
def overflowLimit : Nat := (2 ^ 54 - 1) * 2 ^ 970

theorem overflowLimit_pos : 0 < overflowLimit := by
  apply Nat.mul_pos
  · omega
  · exact pow_pos Nat.two_pos 970

theorem overflowLimit_value : (overflowLimit : ℚ) = (2 ^ 53 - 1 / 2) * 2 ^ (971 : ℤ) := by
  rw [show (971 : ℤ) = 970 + 1 from rfl, zpow_add_one₀ two_ne_zero, zpow_ofNat, overflowLimit,
    Nat.cast_mul, Nat.cast_pow, Nat.cast_ofNat]
  generalize (2 : ℚ) ^ 970 = unit
  norm_num
  ring

end Limits

/-- An integer is no double exactly when it is as far from zero as the limit, or farther. -/
theorem ofInt?_eq_none_iff (n : Int) : ofInt? n = none ↔ overflowLimit ≤ n.natAbs := by
  unfold ofInt? nearestDouble?
  split
  · rename_i zero
    have pos := overflowLimit_pos
    simp only [reduceCtorEq, false_iff]
    omega
  · rename_i nonzero
    rw [Option.map_eq_none_iff, BinaryFormat.double.nearest_eq_none_iff
      (Nat.pos_of_ne_zero nonzero) Nat.one_pos (by decide) (by decide), Nat.cast_one, div_one]
    show ((2 : ℚ) ^ 53 - 1 / 2) * 2 ^ (971 : ℤ) ≤ n.natAbs ↔ _
    rw [← overflowLimit_value, Nat.cast_le]

end SignalGraph.Decimal
