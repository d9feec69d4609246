import SignalGraph.Node.Step
import SignalGraph.Proofs.Decimal.Canonical

/-!
Steps and numeric equality. A node in a numerically equal state that sees numerically equal numbers
steps to a numerically equal state, and puts out numerically equal numbers.
-/

namespace SignalGraph

open Decimal

section Signals

/-- What a node sees, in canonical doubles. -/
def Inputs.canonical (inputs : Inputs) : Inputs := inputs.map (Option.map Decimal.canonical)

variable (inputs : Inputs) (x : Float)

@[simp] theorem Inputs.level_canonical (slot : Nat) :
    inputs.canonical.level slot = Decimal.canonical (inputs.level slot) := by
  simp only [Inputs.level, Inputs.canonical, List.getD_eq_getElem?_getD, List.getElem?_map]
  have zero : Decimal.canonical 0.0 = 0.0 := by decide +kernel
  rcases inputs[slot]? with _ | _ | y
  · exact zero.symm
  · exact zero.symm
  · rfl

@[simp] theorem Inputs.isConnected_canonical (slot : Nat) :
    inputs.canonical.isConnected slot = inputs.isConnected slot := by
  simp only [Inputs.isConnected, Inputs.canonical, List.getD_eq_getElem?_getD, List.getElem?_map]
  rcases inputs[slot]? with _ | _ | y <;> rfl

@[simp] theorem isHigh_canonical : isHigh (canonical x) = isHigh x := by
  unfold isHigh
  rw [decide_eq_decide]
  exact lt_congr rfl (canonical_canonical x)

@[simp] theorem isTrue_canonical : isTrue (canonical x) = isTrue x := by
  unfold isTrue
  rw [decide_eq_decide]
  exact lt_congr rfl (abs_congr (canonical_canonical x))

theorem clamp_congr {x y : Float} (h : canonical x = canonical y) (low high : Float) :
    canonical (clamp low high x) = canonical (clamp low high y) := by
  have raised :
      canonical (if low < x then x else low) = canonical (if low < y then y else low) := by
    by_cases above : low < x
    · rw [if_pos above, if_pos ((lt_congr rfl h).mp above), h]
    · rw [if_neg above, if_neg (mt (lt_congr rfl h).mpr above)]
  unfold clamp
  by_cases below : (if low < x then x else low) < high
  · rw [if_pos below, if_pos ((lt_congr raised rfl).mp below), raised]
  · rw [if_neg below, if_neg (mt (lt_congr raised rfl).mpr below)]

/-- A divisor that counts as true is not zero, so it has one form only. -/
theorem canonical_of_isTrue {x : Float} (nonzero : isTrue x) : canonical x = x := by
  rcases canonical_eq_or x with same | rfl
  · exact same
  · exact absurd nonzero (by decide +kernel)

theorem quotient_canonical (a b : Float) :
    Decimal.canonical (quotient (canonical a) (canonical b)) = canonical (quotient a b) := by
  unfold quotient
  rw [isTrue_canonical]
  split
  · rename_i nonzero
    rw [canonical_of_isTrue nonzero]
    exact div_congr (canonical_canonical a) b
  · rfl

theorem MathOp.eval_canonical (op : MathOp) :
    canonical (op.eval inputs.canonical) = canonical (op.eval inputs) := by
  cases op <;> simp only [MathOp.eval, Inputs.level_canonical, isTrue_canonical]
  case add => exact add_congr (canonical_canonical _) (canonical_canonical _)
  case subtract => exact sub_congr (canonical_canonical _) (canonical_canonical _)
  case multiply => exact mul_congr (canonical_canonical _) (canonical_canonical _)
  case divide => exact quotient_canonical _ _
  case abs => exact abs_congr (canonical_canonical _)
  case select => split <;> exact canonical_canonical _

theorem LogicOp.eval_canonical (op : LogicOp) : op.eval inputs.canonical = op.eval inputs := by
  cases op <;> simp only [LogicOp.eval, Inputs.level_canonical, isTrue_canonical]
  case greaterThan =>
    rw [decide_eq_decide]
    exact lt_congr (canonical_canonical _) (canonical_canonical _)
  case lessThan =>
    rw [decide_eq_decide]
    exact lt_congr (canonical_canonical _) (canonical_canonical _)

theorem countStep_canonical (incWasHigh decWasHigh inc dec reset : Bool) :
    canonical (countStep (canonical x) incWasHigh decWasHigh inc dec reset) =
      canonical (countStep x incWasHigh decWasHigh inc dec reset) := by
  have raised : canonical (if inc && !incWasHigh then canonical x + 1.0 else canonical x) =
      canonical (if inc && !incWasHigh then x + 1.0 else x) := by
    split
    · exact add_congr (canonical_canonical x) rfl
    · exact canonical_canonical x
  unfold countStep
  split
  · rfl
  · dsimp only
    split
    · exact sub_congr raised rfl
    · exact raised

end Signals

section Sinks

/-- A beep in canonical doubles. -/
def Beep.canonical (beep : Beep) : Beep :=
  { beep with pitch := Decimal.canonical beep.pitch, volume := Decimal.canonical beep.volume }

theorem Beep.canonical_wasHigh (beep : Beep) : beep.canonical.wasHigh = beep.wasHigh := by
  unfold Beep.canonical
  rfl

theorem Beep.step_canonical (beep : Beep) (inputs : Inputs) :
    (beep.canonical.step inputs.canonical).canonical = (beep.step inputs).canonical := by
  unfold Beep.step
  simp only [Inputs.level_canonical, Inputs.isConnected_canonical, isHigh_canonical,
    beep.canonical_wasHigh]
  have pitch := clamp_congr (canonical_canonical (inputs.level 1)) (-1.0) 1.0
  have volume := clamp_congr (canonical_canonical (inputs.level 2)) 0.0 1.0
  split
  · simp only [Beep.canonical, pitch]
    split
    · rw [volume]
    · rfl
  · simp only [Beep.canonical, canonical_canonical]

/-- A pixel in canonical doubles. -/
def Pixel.canonical (p : Pixel) : Pixel :=
  { red := Decimal.canonical p.red, green := Decimal.canonical p.green
    blue := Decimal.canonical p.blue }

@[simp] theorem Pixel.canonical_canonical (p : Pixel) : p.canonical.canonical = p.canonical := by
  simp only [Pixel.canonical, Decimal.canonical_canonical]

theorem Pixel.toSingle_canonical (p : Pixel) :
    p.canonical.toSingle.canonical = p.toSingle.canonical := by
  simp only [Pixel.canonical, Pixel.toSingle, Decimal.toSingle_canonical]

theorem Pixel.isLit_canonical (p : Pixel) : p.canonical.isLit = p.isLit := by
  have differs (x : Float) : (Decimal.canonical x != 0.0) = (x != 0.0) := by
    rcases canonical_eq_or x with same | rfl
    · rw [same]
    · decide +kernel
  simp only [Pixel.isLit, Pixel.canonical, differs]

/-- A screen in canonical doubles. -/
def Screen.canonical (screen : Screen) : Screen :=
  { pixels := screen.pixels.map Pixel.canonical }

@[simp] theorem Screen.canonical_canonical (screen : Screen) :
    screen.canonical.canonical = screen.canonical := by
  simp only [Screen.canonical, Vector.map_map]
  congr 2
  funext p
  exact p.canonical_canonical

theorem Screen.litCount_canonical (screen : Screen) :
    screen.canonical.litCount = screen.litCount := by
  simp only [Screen.litCount, Screen.canonical, Vector.toList_map, List.countP_map]
  congr 1
  funext p
  exact p.isLit_canonical

theorem Screen.draw_canonical (screen : Screen) (x y : Int) (p : Pixel) :
    (screen.canonical.draw x y p.canonical).canonical = (screen.draw x y p).canonical := by
  unfold Screen.draw
  split
  · simp only [Screen.set, Screen.canonical, Vector.map_set, p.toSingle_canonical]
    have again := congrArg Screen.pixels screen.canonical_canonical
    simp only [Screen.canonical] at again
    rw [again]
  · exact screen.canonical_canonical

theorem truncate_canonical (x : Float) : truncate (canonical x) = truncate x := by
  unfold truncate
  rw [truncate?_canonical, isNaN_congr (Decimal.canonical_canonical x)]

theorem Screen.step_canonical (screen : Screen) (inputs : Inputs) :
    (screen.canonical.step inputs.canonical).map Screen.canonical id =
      (screen.step inputs).map Screen.canonical id := by
  have cleared : Screen.canonical (if isHigh (inputs.level 6) then .blank else screen.canonical) =
      Screen.canonical (if isHigh (inputs.level 6) then .blank else screen) := by
    split
    · rfl
    · exact screen.canonical_canonical
  unfold Screen.step
  simp only [Inputs.level_canonical, isHigh_canonical, truncate_canonical]
  generalize (if isHigh (inputs.level 6) then Screen.blank else screen.canonical) = before at *
  generalize (if isHigh (inputs.level 6) then Screen.blank else screen) = after at *
  split
  · cases truncate (inputs.level 0) with
    | error fault => exact Prod.ext cleared rfl
    | ok x =>
        cases truncate (inputs.level 1) with
        | error fault => exact Prod.ext cleared rfl
        | ok y =>
            refine Prod.ext ?_ rfl
            let pixel : Pixel :=
              { red := inputs.level 2, green := inputs.level 3, blue := inputs.level 4 }
            calc Screen.canonical (before.draw x y pixel.canonical)
                = (before.canonical.draw x y pixel.canonical.canonical).canonical :=
                  (before.draw_canonical x y _).symm
              _ = (after.canonical.draw x y pixel.canonical).canonical := by
                  rw [cleared, pixel.canonical_canonical]
              _ = (after.draw x y pixel).canonical := after.draw_canonical x y pixel
  · exact Prod.ext cleared rfl

end Sinks

section Bodies

/-- A body in canonical doubles. -/
def Body.canonical : Body → Body
  | .constant value => .constant (Decimal.canonical value)
  | .timer elapsed => .timer (Decimal.canonical elapsed)
  | .counter value incWasHigh decWasHigh =>
      .counter (Decimal.canonical value) incWasHigh decWasHigh
  | .beep b => .beep b.canonical
  | .color red green blue =>
      .color (Decimal.canonical red) (Decimal.canonical green) (Decimal.canonical blue)
  | .screen s => .screen s.canonical
  | body => body

/-- What a step does, in canonical doubles. -/
def Effect.canonical (effect : Effect) : Effect :=
  { effect with
    body := effect.body.canonical
    outlets := effect.outlets.map (List.map Decimal.canonical) }

/-- A step takes what is numerically equal to what is numerically equal, and fails alike. -/
theorem Body.step_canonical (around : Surroundings) (id : Int) (inputs : Inputs)
    (generator : Random.Generator) (body : Body) :
    (body.canonical.step around id inputs.canonical generator).canonical =
      (body.step around id inputs generator).canonical := by
  cases body with
  | constant value =>
      simp only [Body.canonical, Body.step, Effect.canonical, Decimal.canonical_canonical,
        Option.map_some, List.map_cons, List.map_nil]
  | math op =>
      simp only [Body.canonical, Body.step, Effect.canonical, MathOp.eval_canonical,
        Option.map_some, List.map_cons, List.map_nil]
  | logic op => simp only [Body.canonical, Body.step, LogicOp.eval_canonical]
  | timer elapsed =>
      have start : Decimal.canonical
          (if isHigh (inputs.level 0) then 0.0 else Decimal.canonical elapsed) =
          Decimal.canonical (if isHigh (inputs.level 0) then 0.0 else elapsed) := by
        split
        · rfl
        · exact Decimal.canonical_canonical elapsed
      simp only [Body.canonical, Body.step, Effect.canonical, Inputs.level_canonical,
        isHigh_canonical, Option.map_some, List.map_cons, List.map_nil,
        add_congr start (rfl : Decimal.canonical around.dt = Decimal.canonical around.dt)]
  | counter value incWasHigh decWasHigh =>
      simp only [Body.canonical, Body.step, Effect.canonical, Inputs.level_canonical,
        isHigh_canonical, countStep_canonical, Option.map_some, List.map_cons, List.map_nil]
  | key v => cases v <;> rfl
  | beep b =>
      simp only [Body.canonical, Body.step, Effect.canonical, b.step_canonical]
  | color red green blue =>
      have channel (slot : Nat) :=
        clamp_congr (Decimal.canonical_canonical (inputs.level slot)) 0.0 1.0
      simp only [Body.canonical, Body.step, Effect.canonical, Inputs.level_canonical, channel]
  | screen before =>
      have stepped := before.step_canonical inputs
      have screens := congrArg Prod.fst stepped
      have faults := congrArg Prod.snd stepped
      simp only [Prod.map_fst, Prod.map_snd, id_eq] at screens faults
      simp only [Body.canonical, Body.step, Effect.canonical, screens, faults]
  | _ => rfl

end Bodies

end SignalGraph
