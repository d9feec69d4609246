import SignalGraph.Graph.Basic
import SignalGraph.Script.Compile

/-!
Circuits made from scripts. The gates of a script become the nodes of a graph in their order. They
are built in a graph of their own, which is adopted if the script is accepted, or in the graph itself
once it is cleared, where a script that is refused leaves what could be read of it.
-/

namespace SignalGraph

/-- What becomes of the graph when a script is refused. -/
inductive CompileMode where
  /-- The graph stays as it was. -/
  | atomic
  /-- The gates up to the fault replace the nodes of the graph. -/
  | partialGates
deriving Repr, DecidableEq

/-- Wires an inlet of a node to the first outlet of an earlier gate's node, if it reads one. The nodes
of the gates lie in the pool from `first` on. -/
def Circuit.wireInlet (c : Circuit) (first target : Ref) (inlet : Option Script.Wire × Nat) :
    Circuit :=
  match inlet.1 with
  | some wire => (c.wire (first + wire) target 0 inlet.2).1
  | none => c

/-- Enters the node of a gate at its spot, and wires its inlets in the order of their slots. -/
def Circuit.addGate (c : Circuit) (first : Ref) (gate : Script.Gate) : Circuit :=
  let (entered, ref) := c.insert gate.body gate.spot.x gate.spot.y
  gate.sources.zipIdx.foldl (fun c inlet => c.wireInlet first ref inlet) entered

/-- Adds the gates of a script to a circuit, one after the other. -/
def Circuit.build (c : Circuit) (gates : Array Script.Gate) : Circuit :=
  gates.foldl (fun built gate => built.addGate c.pool.nodes.size gate) c

/-- The circuit in which a script is built: a graph of its own with the same random numbers, or the
graph itself without its nodes. -/
def Circuit.workspace (c : Circuit) : CompileMode → Circuit
  | .atomic => { c with graph := { generator := c.graph.generator } }
  | .partialGates => { c with graph := c.graph.clear }

/-- What a compilation tells its caller. -/
structure CompileResult where
  fault : Option Script.Fault
  symbols : List (String × Nat)
  warnings : List Script.Warning

def CompileResult.isOk (result : CompileResult) : Bool := result.fault.isNone

/-- Compiles a script into a circuit. -/
def Circuit.compile (c : Circuit) (mode : CompileMode) (source : String) :
    Circuit × CompileResult :=
  let compilation := Script.compile source
  let built := (c.workspace mode).build compilation.gates
  let result : CompileResult :=
    { fault := compilation.fault, symbols := compilation.symbols
      warnings := compilation.warnings }
  match mode, compilation.fault with
  | .partialGates, _ => (built, result)
  | .atomic, none => ({ built with graph := (c.graph.adopt built.graph).1 }, result)
  | .atomic, some _ => (c, { result with symbols := [] })

end SignalGraph
