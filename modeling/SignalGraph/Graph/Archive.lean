import SignalGraph.Graph.Reading

/-!
Graphs as saved text: a header, a line for each node, and a line for each connection. Nodes go by
their positions in the list.
-/

namespace SignalGraph

inductive SaveFault where
  | script (fault : ScriptFault)
  | noPosition (id : Int)

def SaveFault.message : SaveFault → String
  | .script fault => fault.message
  | .noPosition id => Text.ofInt id

/-- The positions of the nodes by their ids; of nodes with one id the last one counts. -/
def Circuit.positions (c : Circuit) : List (Int × Nat) :=
  c.nodes.zipIdx.foldl (fun table (node, i) => putEntry node.idNumber i table) []

def position (positions : List (Int × Nat)) (id : Int) : Except SaveFault Nat :=
  (positions.lookup id).elim (.error (.noPosition id)) .ok

/-- The line of a node. Data that counts as false is left out. -/
def Node.line (node : Node) (i : Nat) : Except SaveFault String := do
  let data ← node.body.data.mapError .script
  let line := s!"NODE {i} {node.kind.name} {Text.ofInt node.x} {Text.ofInt node.y}"
  return if data.truth then s!"{line} {data.display}" else line

def Link.line (link : Link) (positions : List (Int × Nat)) : Except SaveFault String := do
  let source ← position positions link.source
  let target ← position positions link.target
  return s!"CONN {source} {link.outletSlot} {target} {link.inletSlot}"

/-- The text of a graph. -/
def Circuit.save (c : Circuit) : Except SaveFault String := do
  let nodes ← c.nodes.zipIdx.mapM fun (node, i) => node.line i
  let positions := c.positions
  let links ← c.links.mapM fun link => link.line positions
  return "\n".intercalate (archiveHeader :: nodes ++ links) ++ "\n"

end SignalGraph
