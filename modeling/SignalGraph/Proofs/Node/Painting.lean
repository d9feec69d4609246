import SignalGraph.Proofs.Decimal.Single
import SignalGraph.Proofs.Node.Course
import SignalGraph.Proofs.Session.Ticking

/-!
What a screen shows. A cell has the color of the last tick that drew it, unless the screen has been
cleared since. Ticks that draw outside the screen leave all cells as they were.
-/

namespace SignalGraph

section Cells

theorem truncate_eq_ok {x : Float} {n : Int} :
    truncate x = .ok n ↔ Decimal.truncate? x = some n := by
  rw [truncate]
  cases Decimal.truncate? x <;> simp

theorem screenLine?_eq_some {n : Int} {line : Fin screenSize} :
    screenLine? n = some line ↔ n = (line.val : Int) := by
  have bound := line.isLt
  rw [screenLine?]
  by_cases inside : n.toNat < screenSize
  · rw [dif_pos inside]
    by_cases nonnegative : 0 ≤ n
    · rw [if_pos nonnegative, Option.some.injEq, Fin.ext_iff]
      show n.toNat = line.val ↔ _
      omega
    · rw [if_neg nonnegative]
      exact iff_of_false nofun (by omega)
  · rw [dif_neg inside]
    exact iff_of_false nofun (by omega)

/-- A screen keeps its cells apart. -/
theorem pixelIndex_inj {column column' row row' : Fin screenSize} :
    pixelIndex column row = pixelIndex column' row' ↔ column = column' ∧ row = row' := by
  have bound := column.isLt
  have bound' := column'.isLt
  simp only [pixelIndex, Fin.ext_iff, screenSize] at *
  omega

@[simp] theorem Screen.get_blank (column row : Fin screenSize) :
    Screen.blank.get column row = .black := by
  simp [Screen.get, Screen.blank, Vector.get]

theorem Screen.get_set (screen : Screen) (column row column' row' : Fin screenSize) (p : Pixel) :
    (screen.set column row p).get column' row' =
      if column = column' ∧ row = row' then p else screen.get column' row' := by
  have same : (pixelIndex column row).val = (pixelIndex column' row').val ↔
      column = column' ∧ row = row' := Fin.ext_iff.symm.trans pixelIndex_inj
  show (screen.pixels.set (pixelIndex column row) p (pixelIndex column row).isLt)[
    pixelIndex column' row'] = _
  rw [Fin.getElem_fin, Vector.getElem_set]
  simp only [same]
  rfl

theorem Screen.get_draw (screen : Screen) (x y : Int) (p : Pixel) (column row : Fin screenSize) :
    (screen.draw x y p).get column row =
      if x = column.val ∧ y = row.val then p.toSingle else screen.get column row := by
  simp only [← screenLine?_eq_some, Screen.draw]
  cases screenLine? x <;> cases screenLine? y <;> simp [Screen.get_set]

theorem countP_toList {α : Type} {size : Nat} (xs : Vector α size) (p : α → Bool) :
    xs.toList.countP p = (Finset.univ.filter fun i => p (xs.get i)).card := by
  have listed : xs.toList = (List.finRange size).map xs.get := by
    apply List.ext_getElem
    · simp
    · intro i inside inside'
      simp [Vector.get]
  rw [listed, List.countP_map, List.countP_eq_length_filter, Finset.card_def, Finset.filter_val,
    Fin.univ_def, Multiset.filter_coe, Multiset.coe_card]
  simp [Function.comp_def]

/-- How many cells are lit. -/
theorem Screen.litCount_eq (screen : Screen) :
    screen.litCount =
      (Finset.univ.filter fun cell : Fin screenSize × Fin screenSize =>
        (screen.get cell.1 cell.2).isLit).card := by
  let index : Fin screenSize × Fin screenSize ≃ Fin (screenSize * screenSize) :=
    (Equiv.prodComm _ _).trans finProdFinEquiv
  have at_index (cell : Fin screenSize × Fin screenSize) :
      pixelIndex cell.1 cell.2 = index cell := by
    apply Fin.ext
    show cell.2.val * screenSize + cell.1.val = cell.1.val + screenSize * cell.2.val
    rw [Nat.mul_comm, Nat.add_comm]
  rw [Screen.litCount, countP_toList]
  symm
  apply Finset.card_equiv index
  intro cell
  rw [Finset.mem_filter_univ, Finset.mem_filter_univ, ← at_index]
  rfl

end Cells

section Ticks

/-- The cell that a tick draws: its column and its row are the coordinates without their
fractions. -/
def Inputs.draws (inputs : Inputs) (column row : Fin screenSize) : Bool :=
  isHigh (inputs.level 5) && Decimal.truncate? (inputs.level 0) == some (column.val : Int) &&
    Decimal.truncate? (inputs.level 1) == some (row.val : Int)

/-- A tick draws a cell if both coordinates stand for numbers with that integer part. -/
theorem Inputs.draws_iff {inputs : Inputs} {column row : Fin screenSize} :
    inputs.draws column row ↔ isHigh (inputs.level 5) ∧
      (∃ x, Decimal.StandsFor (inputs.level 0) x ∧ Decimal.cutOff x = column.val) ∧
      ∃ y, Decimal.StandsFor (inputs.level 1) y ∧ Decimal.cutOff y = row.val := by
  rw [Inputs.draws, Bool.and_eq_true, Bool.and_eq_true, beq_iff_eq, beq_iff_eq,
    Decimal.truncate?_eq_some_iff, Decimal.truncate?_eq_some_iff, and_assoc]

/-- The color that a tick draws. -/
def Inputs.pixel (inputs : Inputs) : Pixel :=
  { red := inputs.level 2, green := inputs.level 3, blue := inputs.level 4 }

variable (screen : Screen) (inputs : Inputs)

/-- What a tick leaves of a screen before it draws. -/
def Screen.cleared : Screen := if isHigh (inputs.level 6) then .blank else screen

theorem Screen.get_cleared (column row : Fin screenSize) :
    (screen.cleared inputs).get column row =
      if isHigh (inputs.level 6) then .black else screen.get column row := by
  rw [Screen.cleared]
  split
  · exact Screen.get_blank column row
  · rfl

/-- The step of a screen, from what clearing leaves of it. -/
theorem Screen.step_eq :
    screen.step inputs =
      if isHigh (inputs.level 5) then
        match truncate (inputs.level 0), truncate (inputs.level 1) with
        | .ok x, .ok y => ((screen.cleared inputs).draw x y inputs.pixel, none)
        | .error fault, _ => (screen.cleared inputs, some (.coordinate fault))
        | .ok _, .error fault => (screen.cleared inputs, some (.coordinate fault))
      else (screen.cleared inputs, none) := rfl

/-- A tick changes the cell that it draws; all others are cleared, or stay. -/
theorem Screen.get_step (column row : Fin screenSize) :
    (screen.step inputs).1.get column row =
      if inputs.draws column row then inputs.pixel.toSingle
      else if isHigh (inputs.level 6) then .black
      else screen.get column row := by
  rw [Screen.step_eq, Inputs.draws, ← Screen.get_cleared]
  simp only [Bool.and_eq_true, beq_iff_eq, ← truncate_eq_ok]
  cases isHigh (inputs.level 5) with
  | false => simp
  | true =>
      cases truncate (inputs.level 0) with
      | error fault => simp
      | ok x =>
          cases truncate (inputs.level 1) with
          | error fault => simp
          | ok y => simp [Screen.get_draw]

/-- A tick that draws no cell only clears. -/
theorem Screen.step_of_not_draws (outside : ∀ column row, inputs.draws column row = false) :
    (screen.step inputs).1 = screen.cleared inputs := by
  rw [Screen.step_eq]
  cases high : isHigh (inputs.level 5) with
  | false => rfl
  | true =>
      cases hx : truncate (inputs.level 0) with
      | error fault => rfl
      | ok x =>
          cases hy : truncate (inputs.level 1) with
          | error fault => rfl
          | ok y =>
              show (screen.cleared inputs).draw x y inputs.pixel = _
              rw [Screen.draw]
              split
              · rename_i column row hcolumn hrow
                obtain rfl := screenLine?_eq_some.mp hcolumn
                obtain rfl := screenLine?_eq_some.mp hrow
                have draws : inputs.draws column row = true := by
                  rw [Inputs.draws, high, truncate_eq_ok.mp hx, truncate_eq_ok.mp hy]
                  simp
                rw [outside] at draws
                cases draws
              · rfl

end Ticks

section Logs

variable (course : Course) (column row : Fin screenSize) (n : Nat)

/-- A tick draws a cell. -/
def Course.draws : Bool := 0 < n && (course n).inputs.draws column row

/-- The last tick up to one that drew a cell and after which the screen was not cleared, zero if
there is none. -/
def Course.lastDrawn : Nat :=
  Nat.findGreatest (fun k => course.draws column row k ∧ ∀ t ∈ Finset.Ioc k n, ¬course.isHigh 6 t) n

/-- The color of a cell on a screen that was blank at first. -/
def Course.pixelAt : Pixel :=
  let last := course.lastDrawn column row n
  if last = 0 then .black else (course last).inputs.pixel.toSingle

theorem Course.lastDrawn_succ :
    course.lastDrawn column row (n + 1) =
      if course.draws column row (n + 1) then n + 1
      else if course.isHigh 6 (n + 1) then 0
      else course.lastDrawn column row n := by
  rw [lastDrawn, Nat.findGreatest_succ]
  have last : (course.draws column row (n + 1) = true ∧
      ∀ t ∈ Finset.Ioc (n + 1) (n + 1), ¬course.isHigh 6 t) ↔
        course.draws column row (n + 1) = true := by
    rw [Finset.Ioc_self]
    exact and_iff_left (fun t mem => absurd mem (Finset.notMem_empty t))
  simp only [last]
  by_cases clears : course.isHigh 6 (n + 1) = true
  · rw [if_pos clears]
    congr 1
    rw [Nat.findGreatest_eq_zero_iff]
    rintro k - bound ⟨-, stays⟩
    exact stays (n + 1) (Finset.mem_Ioc.mpr ⟨Nat.lt_succ_of_le bound, le_rfl⟩) clears
  · have stays (k : Nat) : (∀ t ∈ Finset.Ioc k (n + 1), ¬course.isHigh 6 t) ↔
        ∀ t ∈ Finset.Ioc k n, ¬course.isHigh 6 t := by
      simp only [Finset.mem_Ioc]
      constructor
      · exact fun stays t mem => stays t ⟨mem.1, Nat.le_succ_of_le mem.2⟩
      · intro stays t mem
        rcases Nat.le_succ_iff.mp mem.2 with before | rfl
        · exact stays t ⟨mem.1, before⟩
        · exact clears
    simp only [stays, if_neg clears]
    rfl

/-- A tick colors the cell that it draws, and blackens all others if it clears. -/
theorem Course.pixelAt_succ :
    course.pixelAt column row (n + 1) =
      if course.draws column row (n + 1) then (course (n + 1)).inputs.pixel.toSingle
      else if course.isHigh 6 (n + 1) then .black
      else course.pixelAt column row n := by
  rw [pixelAt, pixelAt, lastDrawn_succ]
  split
  · rfl
  · split <;> rfl

/-- A tick draws a cell, and none after it clears the screen. -/
structure Course.Paints (k : Nat) : Prop where
  first : 0 < k
  bound : k ≤ n
  high : SignalGraph.isHigh (course.level 5 k)
  column : ∃ x, Decimal.StandsFor (course.level 0 k) x ∧ Decimal.cutOff x = column.val
  row : ∃ y, Decimal.StandsFor (course.level 1 k) y ∧ Decimal.cutOff y = row.val
  stays : ∀ t ∈ Finset.Ioc k n, ¬course.isHigh 6 t

theorem Course.paints_iff {k : Nat} :
    course.Paints column row n k ↔
      k ≤ n ∧ course.draws column row k ∧ ∀ t ∈ Finset.Ioc k n, ¬course.isHigh 6 t := by
  rw [draws, Bool.and_eq_true, decide_eq_true_eq, Inputs.draws_iff]
  constructor
  · rintro ⟨first, bound, high, hcolumn, hrow, stays⟩
    exact ⟨bound, ⟨first, high, hcolumn, hrow⟩, stays⟩
  · rintro ⟨bound, ⟨first, high, hcolumn, hrow⟩, stays⟩
    exact ⟨first, bound, high, hcolumn, hrow, stays⟩

/-- The color of a cell in single precision, channel by channel. -/
structure Pixel.Rounds (p q : Pixel) : Prop where
  red : Decimal.Rounds p.red q.red
  green : Decimal.Rounds p.green q.green
  blue : Decimal.Rounds p.blue q.blue

/-- A cell shows the color of the last tick that painted it, and is black if none did. -/
theorem Course.pixelAt_painted :
    (∃ k, course.Paints column row n k ∧ (∀ t, course.Paints column row n t → t ≤ k) ∧
      (course k).inputs.pixel.Rounds (course.pixelAt column row n)) ∨
    (∀ k, ¬course.Paints column row n k) ∧ course.pixelAt column row n = .black := by
  have latest (k : Nat) (paints : course.Paints column row n k) :
      k ≤ course.lastDrawn column row n := by
    obtain ⟨bound, painted⟩ := (course.paints_iff column row n).mp paints
    exact Nat.le_findGreatest bound painted
  by_cases never : course.lastDrawn column row n = 0
  · refine .inr ⟨fun k paints => ?_, if_pos never⟩
    have early := latest k paints
    have first := paints.first
    omega
  · refine .inl ⟨_, (course.paints_iff column row n).mpr ⟨Nat.findGreatest_le n, ?_⟩, latest, ?_⟩
    · exact Nat.findGreatest_of_ne_zero rfl never
    · rw [pixelAt, if_neg never]
      exact ⟨Decimal.rounds_toSingle _, Decimal.rounds_toSingle _, Decimal.rounds_toSingle _⟩

theorem Body.exists_painted (course : Course) (n : Nat) :
    ∃ screen, (Body.screen .blank).after course n = .screen screen ∧
      ∀ column row, screen.get column row = course.pixelAt column row n := by
  induction n with
  | zero => exact ⟨_, rfl, fun column row => Screen.get_blank column row⟩
  | succ n ih =>
      obtain ⟨screen, body, cells⟩ := ih
      refine ⟨(screen.step (course (n + 1)).inputs).1, ?_, fun column row => ?_⟩
      · rw [Body.after_succ, body]
        rfl
      · rw [Screen.get_step, Course.pixelAt_succ, ← cells]
        rfl

/-- After any number of ticks every cell of a screen has the color of the last tick that drew it, if
the screen has not been cleared since, and is black otherwise. Shown is the number of cells that have
a channel other than zero. A tick that draws outside the screen only clears, and none fails whose
coordinates are finite. -/
theorem Body.after_screen (course : Course) (n : Nat) :
    ∃ screen, (Body.screen .blank).after course n = .screen screen ∧
      (∀ column row, screen.get column row = course.pixelAt column row n) ∧
      (Body.screen screen).sinkState? =
        some (.screen (Finset.univ.filter fun cell : Fin screenSize × Fin screenSize =>
          (screen.get cell.1 cell.2).isLit).card) ∧
      ((∀ column row, course.draws column row (n + 1) = false) →
        (Body.screen .blank).after course (n + 1) =
          .screen (if course.isHigh 6 (n + 1) then .blank else screen)) ∧
      ((course.level 0 (n + 1)).isFinite → (course.level 1 (n + 1)).isFinite →
        ((Body.screen screen).meet (course (n + 1))).fault = none) := by
  obtain ⟨screen, body, cells⟩ := Body.exists_painted course n
  refine ⟨screen, body, cells, ?_, fun outside => ?_, fun finite finite' => ?_⟩
  · rw [Body.sinkState?, screen.litCount_eq]
  · rw [Body.after_succ, body]
    exact congrArg Body.screen (screen.step_of_not_draws _ outside)
  · refine (screen.step_fault_eq_none _).mpr ?_
    rw [Course.level] at finite finite'
    rw [Inputs.strays, finite, finite', Bool.and_self, Bool.not_true, Bool.and_false]

/-- A cell is drawn, and cleared by a tick that draws outside the screen. The next cell is drawn in
the tick of another clearing, and a color that is too small for single precision leaves no light. -/
theorem Body.after_screen_cleared :
    let course := Course.ofReadings [[1.9, -0.5, 0.1, 0.0, 0.0, 1.0, 0.0],
      [-1.0, 0.0, 1.0, 1.0, 1.0, 1.0, 1.0], [0.0, 63.5, 0.5, 0.0, 0.0, 1.0, 1.0],
      [5.0, 5.0, 1e-60, 0.0, 0.0, 1.0, 0.0]]
    let line (n : Nat) (h : n < 64) : Fin screenSize := ⟨n, h⟩
    let first := line 0 (by decide)
    course.lastDrawn (line 1 (by decide)) first 1 = 1 ∧
      course.lastDrawn (line 1 (by decide)) first 2 = 0 ∧
      ∃ screen, (Body.screen .blank).after course 4 = .screen screen ∧
        screen.get (line 1 (by decide)) first = .black ∧
        (screen.get first (line 63 (by decide))).red = 0.5 ∧
        (screen.get (line 5 (by decide)) (line 5 (by decide))).isLit = false := by
  intro course line first
  obtain ⟨screen, body, cells, -⟩ := Body.after_screen course 4
  have never : course.lastDrawn (line 1 (by decide)) first 4 = 0 := by decide +kernel
  have third : course.lastDrawn first (line 63 (by decide)) 4 = 3 := by decide +kernel
  have fourth : course.lastDrawn (line 5 (by decide)) (line 5 (by decide)) 4 = 4 := by
    decide +kernel
  refine ⟨by decide +kernel, by decide +kernel, screen, body, ?_, ?_, ?_⟩
  · rw [cells, Course.pixelAt, never]
    rfl
  · rw [cells, Course.pixelAt, third]
    exact Float.toBits_inj.mp (by decide +kernel)
  · rw [cells, Course.pixelAt, fourth]
    decide +kernel

end Logs

end SignalGraph
