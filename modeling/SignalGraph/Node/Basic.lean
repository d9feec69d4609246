import SignalGraph.Node.Kind
import SignalGraph.Node.Screen
import SignalGraph.Value.Display

/-!
Nodes: a kind with its state, a place in the layout, and slots. Signals leave a node through
outlets, which hold one number each, and enter it through inlets, each of which may read from any
number of outlets. Nodes refer to each other by references, which stay the same when a graph gives
a node another id.
-/

namespace SignalGraph

/-- A node of a pool. -/
abbrev Ref := Nat

/-- An outlet of a node: the node and the slot. -/
structure Outlet where
  ref : Ref
  slot : Nat
deriving Repr, DecidableEq

/-- What a beep remembers: whether it sounds in this tick, the pitch and volume that it took when it
last rose, and whether its trigger was high. -/
structure Beep where
  sound : Value
  shouldPlay : Bool := false
  pitch : Float := 0.0
  volume : Float := 1.0
  wasHigh : Bool := false

/-- A kind with its settings and its state. -/
inductive Body where
  | constant (value : Float)
  | math (op : MathOp)
  | logic (op : LogicOp)
  | timer (elapsed : Float)
  | counter (value : Float) (incWasHigh decWasHigh : Bool)
  | random
  | button (toggle pressed wasDown : Bool)
  | key (key : Value)
  | cursor
  | beep (beep : Beep)
  | color (red green blue : Float)
  | screen (screen : Screen)
  | script (script : Value)
deriving Inhabited

def Body.kind : Body → Kind
  | .constant _ => .constant
  | .math _ => .math
  | .logic _ => .logic
  | .timer _ => .timer
  | .counter .. => .counter
  | .random => .random
  | .button .. => .button
  | .key _ => .key
  | .cursor => .cursor
  | .beep _ => .beep
  | .color .. => .color
  | .screen _ => .screen
  | .script _ => .script

/-- The name that a node shows. -/
def Body.name : Body → String
  | .constant _ => "Constant"
  | .math op => s!"Math ({op.name})"
  | .logic op => s!"Logic ({op.name})"
  | .timer _ => "Timer"
  | .counter .. => "Counter"
  | .random => "Random"
  | .button .. => "Button"
  | .key value => s!"Key ({value.display})"
  | .cursor => "Cursor"
  | .beep _ => "Beep Output"
  | .color .. => "Color Output"
  | .screen _ => "Screen"
  | .script _ => "Script Importer"

def MathOp.inlets : MathOp → List String
  | .abs => ["A"]
  | .select => ["Cond", "True", "False"]
  | _ => ["A", "B"]

def LogicOp.inlets : LogicOp → List String
  | .not => ["In 1"]
  | _ => ["In 1", "In 2"]

/-- The names of the inlets, in the order of their slots. -/
def Body.inlets : Body → List String
  | .math op => op.inlets
  | .logic op => op.inlets
  | .timer _ => ["Reset"]
  | .counter .. => ["Inc", "Dec", "Reset"]
  | .beep _ => ["Trigger", "Pitch", "Volume"]
  | .color .. => ["R", "G", "B"]
  | .screen _ => ["X", "Y", "R", "G", "B", "Draw", "Clear"]
  | _ => []

/-- The names of the outlets, in the order of their slots. -/
def Body.outlets : Body → List String
  | .constant _ => ["Out"]
  | .math _ => ["Result"]
  | .logic _ => ["Result"]
  | .timer _ => ["Time"]
  | .counter .. => ["Count"]
  | .random => ["Out"]
  | .button .. => ["Out"]
  | .key _ => ["Out"]
  | .cursor => ["X", "Y"]
  | _ => []

/-- A node. `inlets` are the outlets that each inlet reads from, the oldest connection first;
`outlets` are the numbers that the outlets hold. A node that no graph has taken yet has no id. -/
structure Node where
  id : Option Nat := none
  x : Int := 0
  y : Int := 0
  body : Body
  inlets : List (List Outlet)
  outlets : List Float
deriving Inhabited

/-- A node as it is made: nothing is connected and all outlets are at zero. -/
def Node.ofBody (body : Body) : Node :=
  { body
    inlets := body.inlets.map fun _ => []
    outlets := body.outlets.map fun _ => 0.0 }

/-- The number that texts show for an id; a node without an id shows -1. -/
def Node.idNumber (node : Node) : Int :=
  match node.id with
  | some id => id
  | none => -1

def Node.kind (node : Node) : Kind := node.body.kind

def Node.name (node : Node) : String := node.body.name

/-- A node as messages call it. -/
def Node.label (node : Node) : String :=
  s!"{node.kind.name}(id={Text.ofInt node.idNumber}, name={Text.quoted node.name})"

/-- An inlet as messages call it. -/
def Node.inletLabel (node : Node) (slot : Nat) : String :=
  let name := node.body.inlets.getD slot ""
  let count := (node.inlets.getD slot []).length
  s!"InputPort({Text.quoted name}, node={Text.ofInt node.idNumber}, slot={slot}, sources={count})"

/-- An outlet as messages call it. -/
def Node.outletLabel (node : Node) (slot : Nat) : String :=
  let name := node.body.outlets.getD slot ""
  let value := Decimal.plain (node.outlets.getD slot 0.0)
  s!"OutputPort({Text.quoted name}, node={Text.ofInt node.idNumber}, slot={slot}, value={value})"

end SignalGraph
