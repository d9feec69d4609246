import SignalGraph.Proofs.Script.Given

/-!
Where the gates of a script are placed. The cursor goes a row further down with every gate, and to
the next column when the next row would be too low. So a column has four rows, and no two gates of a
script share a spot.
-/

namespace SignalGraph.Script

section Spots

variable {spot : Spot}

theorem Spot.next_row (fits : spot.y + 80 ≤ 400) : spot.next = { spot with y := spot.y + 80 } :=
  if_neg (Int.not_lt.mpr fits)

theorem Spot.next_column (low : 400 < spot.y + 80) : spot.next = { x := spot.x + 200, y := 100 } :=
  if_pos low

/-- Where the cursor stands after some gates. -/
def Spot.after : Nat → Spot
  | 0 => .origin
  | i + 1 => (Spot.after i).next

/-- Four spots make a column. -/
theorem Spot.after_eq (i : Nat) :
    Spot.after i = { x := 100 + 200 * (i / 4 : Nat), y := 100 + 80 * (i % 4 : Nat) } := by
  induction i with
  | zero => rfl
  | succ i ih =>
      rw [Spot.after, ih]
      by_cases last : i % 4 = 3
      · have column : (i + 1) / 4 = i / 4 + 1 := by omega
        have row : (i + 1) % 4 = 0 := by omega
        rw [Spot.next_column (by dsimp only; omega), column, row]
        simp only [Spot.mk.injEq]
        omega
      · have column : (i + 1) / 4 = i / 4 := by omega
        have row : (i + 1) % 4 = i % 4 + 1 := by omega
        rw [Spot.next_row (by dsimp only; omega), column, row]
        simp only [Spot.mk.injEq, true_and]
        omega

theorem Spot.after_injective : Spot.after.Injective := by
  intro i j same
  simp only [Spot.after_eq, Spot.mk.injEq] at same
  omega

end Spots

section Layouts

/-- Each gate stands where the cursor was when it was made, and the cursor has moved once for each
gate. -/
structure Assembly.Laid (s : Assembly) : Prop where
  spots : ∀ (i : Nat) (gate : Gate), s.gates.toList[i]? = some gate → gate.spot = Spot.after i
  cursor : s.cursor = Spot.after s.gates.size

theorem Assembly.laid_empty : Assembly.Laid {} where
  spots := fun _ _ found => nomatch found
  cursor := rfl

theorem Assembly.Moves.laid {s next : Assembly} (h : s.Moves next) (laid : s.Laid) :
    next.Laid := by
  cases h with
  | @emit body sources given =>
      refine ⟨fun i gate found => ?_, ?_⟩
      · rw [emit_gates] at found
        rcases getElem?_concat_eq_some.mp found with early | ⟨rfl, rfl⟩
        · exact laid.spots i gate early
        · exact laid.cursor
      · show s.cursor.next = Spot.after (s.gates.push _).size
        rw [Array.size_push, laid.cursor]
        rfl
  | warn warning => exact ⟨laid.spots, laid.cursor⟩
  | bind name wire => exact ⟨laid.spots, laid.cursor⟩

theorem Assembly.Reaches.laid {s next : Assembly} (h : s.Reaches next) (laid : s.Laid) :
    next.Laid :=
  h.keeps Moves.laid laid

/-- Whatever a script says and wherever its reading stops, its gates stand in columns. -/
theorem compile_laid (source : String) : (compile source).assembly.Laid :=
  (compile_reached source).laid Assembly.laid_empty

end Layouts

end SignalGraph.Script
