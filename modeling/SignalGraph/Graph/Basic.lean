import SignalGraph.Graph.Pool
import SignalGraph.Random.Generator
import SignalGraph.Value.Number

/-!
Graphs and their wiring. A graph lists its nodes in the order in which they take their turns, and
finds them by the ids that it gave them. A circuit is a graph together with the pool of its nodes;
circuits with a pool in common may share nodes.
-/

namespace SignalGraph

/-- A graph over some pool. Ids count up from zero; `index` has the nodes by their ids. -/
structure Graph where
  nodes : List Ref := []
  index : List (Nat × Ref) := []
  nextId : Nat := 0
  tickCount : Nat := 0
  generator : Random.Generator

/-- A graph without nodes whose random numbers come from a seed. -/
def Graph.ofSeed (seed : Nat) : Graph := { generator := .ofSeed seed }

/-- Forgets all nodes and starts to count ids anew. Ticks and random numbers go on. -/
def Graph.clear (g : Graph) : Graph := { g with nodes := [], index := [], nextId := 0 }

/-- The nodes and ids of another graph, which is left without nodes. -/
def Graph.adopt (g other : Graph) : Graph × Graph :=
  ({ g with nodes := other.nodes, index := other.index, nextId := other.nextId },
    { other with nodes := [], index := [] })

structure Circuit where
  pool : Pool := {}
  graph : Graph

def Circuit.ofSeed (seed : Nat) : Circuit := { graph := .ofSeed seed }

inductive GraphFault where
  | noNode (id : Value)
  /-- A list or an object, by which nothing can be looked up. -/
  | compoundId (typeName : String)
  | notMember (label : String)
  | alreadyMember (label : String)
  | noOutlet (label : String) (slot : Int) (count : Nat)
  | noInlet (label : String) (slot : Int) (count : Nat)
  | place (fault : NumberFault)

def GraphFault.message : GraphFault → String
  | .noNode id => Text.quoted ("no node with id " ++ id.display)
  | .compoundId typeName => s!"unhashable type: '{typeName}'"
  | .notMember label => Text.quoted (label ++ " is not part of the graph")
  | .alreadyMember label => label ++ " is already part of the graph"
  | .noOutlet label slot count =>
      label ++ s!" has no output slot {Text.ofInt slot} ({count} outputs)"
  | .noInlet label slot count =>
      label ++ s!" has no input slot {Text.ofInt slot} ({count} inputs)"
  | .place fault => fault.message

def Circuit.node (c : Circuit) (ref : Ref) : Node := c.pool.get ref

/-- The nodes in the order of their turns. -/
def Circuit.nodes (c : Circuit) : List Node := c.graph.nodes.map c.node

/-- A node is a member if the graph finds it by the id that it bears now. -/
def Circuit.contains (c : Circuit) (ref : Ref) : Bool :=
  match (c.node ref).id with
  | some id => c.graph.index.lookup id = some ref
  | none => false

/-- Gives a node the next id of the graph. -/
def Circuit.claim (c : Circuit) (ref : Ref) : Circuit :=
  { pool := c.pool.modify ref fun node => { node with id := some c.graph.nextId }
    graph := { c.graph with nextId := c.graph.nextId + 1 } }

/-- Puts a node that bears an id at the end of the list, and at a place of the layout. -/
def Circuit.append (c : Circuit) (ref : Ref) (id : Nat) (x y : Int) : Circuit :=
  { pool := c.pool.modify ref fun node => { node with x, y }
    graph := { c.graph with
      nodes := c.graph.nodes ++ [ref]
      index := putEntry id ref c.graph.index } }

/-- Enters a node of the pool. A place that is no number is refused only after the node has taken
its id. -/
def Circuit.spawn (c : Circuit) (ref : Ref) (x y : Value) : Circuit × Option GraphFault :=
  if c.contains ref then (c, some (.alreadyMember (c.node ref).label))
  else
    let claimed := c.claim ref
    match x.toInt, y.toInt with
    | .ok x, .ok y => (claimed.append ref c.graph.nextId x y, none)
    | .error fault, _ => (claimed, some (.place fault))
    | .ok _, .error fault => (claimed, some (.place fault))

/-- Enters a new node, which needs no check. -/
def Circuit.insert (c : Circuit) (body : Body) (x y : Int) : Circuit × Ref :=
  let (pool, ref) := c.pool.add (.ofBody body)
  (({ c with pool }.claim ref).append ref c.graph.nextId x y, ref)

/-- The id that a value stands for, if it can be one. -/
def idOfValue? (v : Value) : Option Nat :=
  let n? : Option Int :=
    match v with
    | .int n => some n
    | .bool b => some (if b then 1 else 0)
    | .float x => if Decimal.isWhole x then Decimal.truncate? x else none
    | _ => none
  n?.bind fun n => if 0 ≤ n then some n.toNat else none

/-- Whether a value has parts. -/
def isCompound : Value → Bool
  | .list _ => true
  | .object _ => true
  | _ => false

/-- The node that has an id in the graph. -/
def Circuit.find (c : Circuit) (id : Value) : Except GraphFault Ref :=
  if isCompound id then .error (.compoundId id.typeName)
  else
    match (idOfValue? id).bind fun id => c.graph.index.lookup id with
    | some ref => .ok ref
    | none => .error (.noNode id)

def Circuit.checkMember (c : Circuit) (ref : Ref) : Except GraphFault Unit :=
  if c.contains ref then .ok () else .error (.notMember (c.node ref).label)

/-- The slot that a number stands for among `count` slots. -/
def slot? (n : Int) (count : Nat) : Option Nat :=
  if 0 ≤ n && n < count then some n.toNat else none

/-- Adds an outlet to what an inlet reads from, and says whether it was new there. -/
def Circuit.wire (c : Circuit) (source target : Ref) (outletSlot inletSlot : Nat) :
    Circuit × Bool :=
  let outlet : Outlet := { ref := source, slot := outletSlot }
  let sources := (c.node target).inlets.getD inletSlot []
  if outlet ∈ sources then (c, false)
  else
    let pool := c.pool.modify target fun node =>
      { node with inlets := node.inlets.set inletSlot (sources ++ [outlet]) }
    ({ c with pool }, true)

/-- Connects an outlet of a member to an inlet of a member, unless they are connected already. -/
def Circuit.connect (c : Circuit) (source : Ref) (outletSlot : Int) (target : Ref)
    (inletSlot : Int) : Except GraphFault (Circuit × Bool) := do
  c.checkMember source
  c.checkMember target
  let outlets := (c.node source).outlets.length
  let inlets := (c.node target).inlets.length
  let some outletSlot := slot? outletSlot outlets
    | throw (.noOutlet (c.node source).label outletSlot outlets)
  let some inletSlot := slot? inletSlot inlets
    | throw (.noInlet (c.node target).label inletSlot inlets)
  return c.wire source target outletSlot inletSlot

/-- What is left of an inlet's sources without those whose node bears an id now. -/
def Pool.dropSources (pool : Pool) (id : Int) (sources : List Outlet) : List Outlet :=
  sources.filter fun outlet => (pool.get outlet.ref).idNumber ≠ id

/-- Disconnects a node's inlets from all nodes that bear an id now. -/
def Pool.scrub (pool : Pool) (id : Int) (ref : Ref) : Pool :=
  pool.modify ref fun node => { node with inlets := node.inlets.map (pool.dropSources id) }

/-- Takes a member out of the graph and disconnects it from the others. Its own inlets stay. -/
def Circuit.remove (c : Circuit) (ref : Ref) : Except GraphFault Circuit := do
  c.checkMember ref
  let id := (c.node ref).idNumber
  let nodes := c.graph.nodes.erase ref
  let index := c.graph.index.filter fun entry => (entry.1 : Int) ≠ id
  return {
    pool := nodes.foldl (fun pool other => pool.scrub id other) c.pool
    graph := { c.graph with nodes, index } }

/-- A slot counted from the first one, or below zero from behind the last one. -/
def slotFromEnds? (n : Int) (count : Nat) : Option Nat :=
  if 0 ≤ n then slot? n count else slot? (n + count) count

/-- Sets the number that an outlet holds; nothing where the node has no such outlet. -/
def Pool.setSignal? (pool : Pool) (ref : Ref) (slot : Int) (x : Float) : Option Pool :=
  (slotFromEnds? slot (pool.get ref).outlets.length).map fun slot =>
    pool.modify ref fun node => { node with outlets := node.outlets.set slot x }

/-- Disconnects one inlet from the nodes that bear an id now, and tells how many outlets that were;
nothing where the node has no such inlet. -/
def Pool.scrubInlet? (pool : Pool) (ref : Ref) (slot : Int) (id : Int) : Option (Pool × Nat) :=
  (slotFromEnds? slot (pool.get ref).inlets.length).map fun slot =>
    let sources := (pool.get ref).inlets.getD slot []
    let kept := pool.dropSources id sources
    (pool.modify ref fun node => { node with inlets := node.inlets.set slot kept },
      sources.length - kept.length)

/-- A connection, its ends named by the ids of their nodes. -/
structure Link where
  source : Int
  outletSlot : Nat
  target : Int
  inletSlot : Nat
deriving Repr, DecidableEq

/-- The connections into one node. -/
def Pool.linksInto (pool : Pool) (node : Node) : List Link :=
  node.inlets.zipIdx.flatMap fun (sources, inletSlot) =>
    sources.map fun outlet =>
      { source := (pool.get outlet.ref).idNumber, outletSlot := outlet.slot
        target := node.idNumber, inletSlot }

/-- All connections, by the order of the nodes they lead into, their slots, and age. -/
def Circuit.links (c : Circuit) : List Link := c.nodes.flatMap c.pool.linksInto

/-- The numbers that the outlets of each node hold, by the ids of the nodes. -/
def Circuit.signals (c : Circuit) : List (Int × List Float) :=
  c.nodes.foldl (fun signals node => putEntry node.idNumber node.outlets signals) []

end SignalGraph
