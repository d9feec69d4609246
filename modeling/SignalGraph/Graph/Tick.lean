import SignalGraph.Graph.Basic
import SignalGraph.Node.Step

/-!
Ticks. In one tick every node takes its turn once, in the order of the list, and its outlets change
at once: a node sees the new numbers of the nodes before it, and the old ones of those after it.
-/

namespace SignalGraph

/-- What a node sees at its inlets: of several outlets the greatest number. -/
def Pool.inputs (pool : Pool) (node : Node) : Inputs :=
  node.inlets.map fun sources => highest? (sources.map pool.signal)

/-- The pool and the generator between two turns. -/
structure Turn where
  pool : Pool
  generator : Random.Generator

/-- The turn of one node. -/
def Turn.step (around : Surroundings) (turn : Turn) (ref : Ref) : Turn × Option StepFault :=
  let node := turn.pool.get ref
  let effect := node.body.step around node.idNumber (turn.pool.inputs node) turn.generator
  let after := { node with body := effect.body, outlets := effect.outlets.getD node.outlets }
  ({ pool := turn.pool.set ref after, generator := effect.generator }, effect.fault)

/-- The turns of some nodes, up to the first that fails. -/
def Turn.run (around : Surroundings) (turn : Turn) : List Ref → Turn × Option StepFault
  | [] => (turn, none)
  | ref :: refs =>
      match turn.step around ref with
      | (next, none) => next.run around refs
      | (next, some fault) => (next, some fault)

/-- Counts a tick that is about to happen. -/
def Circuit.count (c : Circuit) : Circuit :=
  { c with graph := { c.graph with tickCount := c.graph.tickCount + 1 } }

/-- One tick. When a node fails the tick stays half done. -/
def Circuit.tick (c : Circuit) (dt : Float) (controls : Controls) : Circuit × Option StepFault :=
  let counted := c.count
  let start : Turn := { pool := counted.pool, generator := counted.graph.generator }
  let (turn, fault) := start.run { dt, controls } counted.graph.nodes
  ({ pool := turn.pool, graph := { counted.graph with generator := turn.generator } }, fault)

inductive TickFault where
  | length (fault : NumberFault)
  | step (fault : StepFault)

def TickFault.message : TickFault → String
  | .length fault => fault.message
  | .step fault => fault.message

/-- One tick whose length is loosely typed. A length that is no number is refused only after the
tick has been counted. -/
def Circuit.tickValue (c : Circuit) (dt : Value) (controls : Controls) :
    Circuit × Option TickFault :=
  match dt.toFloat with
  | .ok dt =>
      let (c, fault) := c.tick dt controls
      (c, fault.map .step)
  | .error fault => (c.count, some (.length fault))

end SignalGraph
