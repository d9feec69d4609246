import SignalGraph.Controls
import SignalGraph.Node.Basic
import SignalGraph.Random.Generator
import SignalGraph.Value.Number

/-!
One tick of one node. A node sees the numbers at its inlets, its own state, the length of the tick,
the controls, and the generator of random numbers; it changes its state and its outlets, and nothing
else.
-/

namespace SignalGraph

/-- What all nodes share in one tick. -/
structure Surroundings where
  dt : Float
  controls : Controls

/-- The number at each inlet; nothing where no outlet is connected. -/
abbrev Inputs := List (Option Float)

/-- The number at an inlet, zero where nothing is connected. -/
def Inputs.level (inputs : Inputs) (slot : Nat) : Float := (inputs.getD slot none).getD 0.0

def Inputs.isConnected (inputs : Inputs) (slot : Nat) : Bool := (inputs.getD slot none).isSome

/-- The greatest of some numbers: the first, unless a later one is greater. -/
def highest? : List Float → Option Float
  | [] => none
  | x :: xs => some (xs.foldl (fun greatest y => if greatest < y then y else greatest) x)

/-- Signals this close to zero count as false where a truth value is due. -/
def epsilon : Float := 0.001

def isTrue (x : Float) : Bool := epsilon < x.abs

/-- Triggers are high above zero. -/
def isHigh (x : Float) : Bool := 0.0 < x

def ofBool (b : Bool) : Float := if b then 1.0 else 0.0

/-- A number moved into a range; what is no number goes to the lower end. -/
def clamp (low high x : Float) : Float :=
  let raised := if low < x then x else low
  if raised < high then raised else high

/-- Division by a number that counts as false gives zero. -/
def quotient (a b : Float) : Float := if isTrue b then a / b else 0.0

def MathOp.eval (op : MathOp) (inputs : Inputs) : Float :=
  match op with
  | .add => inputs.level 0 + inputs.level 1
  | .subtract => inputs.level 0 - inputs.level 1
  | .multiply => inputs.level 0 * inputs.level 1
  | .divide => quotient (inputs.level 0) (inputs.level 1)
  | .abs => (inputs.level 0).abs
  | .select => if isTrue (inputs.level 0) then inputs.level 1 else inputs.level 2

def LogicOp.eval (op : LogicOp) (inputs : Inputs) : Bool :=
  match op with
  | .and => isTrue (inputs.level 0) && isTrue (inputs.level 1)
  | .or => isTrue (inputs.level 0) || isTrue (inputs.level 1)
  | .xor => isTrue (inputs.level 0) != isTrue (inputs.level 1)
  | .not => !isTrue (inputs.level 0)
  | .greaterThan => inputs.level 1 < inputs.level 0
  | .lessThan => inputs.level 0 < inputs.level 1

/-- A count after one tick: a reset wins, else a rising trigger counts up or down by one. -/
def countStep (value : Float) (incWasHigh decWasHigh inc dec reset : Bool) : Float :=
  if reset then 0.0
  else
    let raised := if inc && !incWasHigh then value + 1.0 else value
    if dec && !decWasHigh then raised - 1.0 else raised

/-- A beep after one tick. It sounds when its trigger rises, and takes pitch and volume then. -/
def Beep.step (beep : Beep) (inputs : Inputs) : Beep :=
  let high := isHigh (inputs.level 0)
  if high && !beep.wasHigh then
    { beep with
      shouldPlay := true
      pitch := clamp (-1.0) 1.0 (inputs.level 1)
      volume := if inputs.isConnected 2 then clamp 0.0 1.0 (inputs.level 2) else 1.0
      wasHigh := high }
  else { beep with shouldPlay := false, wasHigh := high }

inductive StepFault where
  | coordinate (fault : NumberFault)
  | key (typeName : String)

def StepFault.message : StepFault → String
  | .coordinate fault => fault.message
  | .key typeName => s!"'{typeName}' object has no attribute 'lower'"

/-- A screen after one tick, and the fault of a coordinate that has no integer part. Clearing comes
before drawing. -/
def Screen.step (screen : Screen) (inputs : Inputs) : Screen × Option StepFault :=
  let cleared := if isHigh (inputs.level 6) then .blank else screen
  if isHigh (inputs.level 5) then
    match truncate (inputs.level 0), truncate (inputs.level 1) with
    | .ok x, .ok y =>
        let pixel : Pixel :=
          { red := inputs.level 2, green := inputs.level 3, blue := inputs.level 4 }
        (cleared.draw x y pixel, none)
    | .error fault, _ => (cleared, some (.coordinate fault))
    | .ok _, .error fault => (cleared, some (.coordinate fault))
  else (cleared, none)

/-- A coordinate of the pointer in units of the viewport's size, zero without a viewport. -/
def pointerShare (pointer size : Float) : Float := if 0.0 < size then pointer / size else 0.0

/-- What a tick does to a node. A fault leaves the outlets as they were. -/
structure Effect where
  body : Body
  outlets : Option (List Float)
  generator : Random.Generator
  fault : Option StepFault := none

/-- One tick of a body whose node has an id. -/
def Body.step (around : Surroundings) (id : Int) (inputs : Inputs) (generator : Random.Generator)
    (body : Body) : Effect :=
  match body with
  | .constant value => { body, outlets := some [value], generator }
  | .math op => { body, outlets := some [op.eval inputs], generator }
  | .logic op => { body, outlets := some [ofBool (op.eval inputs)], generator }
  | .timer elapsed =>
      let start := if isHigh (inputs.level 0) then 0.0 else elapsed
      let elapsed := start + around.dt
      { body := .timer elapsed, outlets := some [elapsed], generator }
  | .counter value incWasHigh decWasHigh =>
      let inc := isHigh (inputs.level 0)
      let dec := isHigh (inputs.level 1)
      let value := countStep value incWasHigh decWasHigh inc dec (isHigh (inputs.level 2))
      { body := .counter value inc dec, outlets := some [value], generator }
  | .random =>
      let (x, generator) := generator.draw
      { body, outlets := some [x], generator }
  | .button toggle pressed wasDown =>
      let down := around.controls.buttonDown id
      let pressed := if toggle then if down && !wasDown then !pressed else pressed else down
      { body := .button toggle pressed down, outlets := some [ofBool pressed], generator }
  | .key (.text name) =>
      { body, outlets := some [ofBool (around.controls.keyDown name)], generator }
  | .key v => { body, outlets := none, generator, fault := some (.key v.typeName) }
  | .cursor =>
      let controls := around.controls
      let x := pointerShare controls.pointerX controls.viewportWidth
      let y := pointerShare controls.pointerY controls.viewportHeight
      { body, outlets := some [x, y], generator }
  | .beep b => { body := .beep (b.step inputs), outlets := some [], generator }
  | .color .. =>
      let channel (slot : Nat) := clamp 0.0 1.0 (inputs.level slot)
      { body := .color (channel 0) (channel 1) (channel 2), outlets := some [], generator }
  | .screen before =>
      let (after, fault) := before.step inputs
      { body := .screen after, outlets := some [], generator, fault }
  | .script _ => { body, outlets := some [], generator }

end SignalGraph
