import SignalGraph.Value.Basic

/-!
The closed set of node kinds, and the operations of the two kinds that have some. Each has one name,
by which saved texts and documents call it.
-/

namespace SignalGraph

inductive Kind where
  | constant
  | math
  | logic
  | timer
  | counter
  | random
  | button
  | key
  | cursor
  | beep
  | color
  | screen
  | script
deriving Repr, DecidableEq, Inhabited

/-- All kinds in their order. -/
def Kind.all : List Kind :=
  [.constant, .math, .logic, .timer, .counter, .random, .button, .key, .cursor, .beep, .color,
    .screen, .script]

def Kind.name : Kind → String
  | .constant => "ConstantNode"
  | .math => "MathNode"
  | .logic => "LogicNode"
  | .timer => "TimerNode"
  | .counter => "CounterNode"
  | .random => "RandomNode"
  | .button => "ButtonNode"
  | .key => "KeyNode"
  | .cursor => "CursorNode"
  | .beep => "BeepOutputNode"
  | .color => "ColorOutputNode"
  | .screen => "ScreenNode"
  | .script => "ScriptImporterNode"

def Kind.ofName? (name : String) : Option Kind := Kind.all.find? fun kind => kind.name = name

inductive MathOp where
  | add
  | subtract
  | multiply
  | divide
  | abs
  | select
deriving Repr, DecidableEq, Inhabited

def MathOp.all : List MathOp := [.add, .subtract, .multiply, .divide, .abs, .select]

def MathOp.name : MathOp → String
  | .add => "Add"
  | .subtract => "Subtract"
  | .multiply => "Multiply"
  | .divide => "Divide"
  | .abs => "Abs"
  | .select => "Select"

def MathOp.ofName? (name : String) : Option MathOp := MathOp.all.find? fun op => op.name = name

inductive LogicOp where
  | and
  | not
  | greaterThan
  | lessThan
  | or
  | xor
deriving Repr, DecidableEq, Inhabited

def LogicOp.all : List LogicOp := [.and, .not, .greaterThan, .lessThan, .or, .xor]

def LogicOp.name : LogicOp → String
  | .and => "And"
  | .not => "Not"
  | .greaterThan => "GreaterThan"
  | .lessThan => "LessThan"
  | .or => "Or"
  | .xor => "Xor"

def LogicOp.ofName? (name : String) : Option LogicOp := LogicOp.all.find? fun op => op.name = name

theorem Kind.ofName?_name (kind : Kind) : Kind.ofName? kind.name = some kind := by
  cases kind <;> decide

theorem MathOp.ofName?_name (op : MathOp) : MathOp.ofName? op.name = some op := by
  cases op <;> decide

theorem LogicOp.ofName?_name (op : LogicOp) : LogicOp.ofName? op.name = some op := by
  cases op <;> decide

end SignalGraph
