import SignalGraph.Graph.Compile
import SignalGraph.Proofs.Entries
import SignalGraph.Proofs.Script.Statements

/-!
What is built of the gates of a script. Gates that are added one after the other are nodes behind all
that the pool held before, with their positions as ids. In either mode these are the nodes that a
script leaves, unless it is refused and the circuit stays as it was.
-/

namespace SignalGraph

open Script

section Adding

/-- What an inlet reads from, if the nodes of the gates lie in the pool from `first` on. -/
def outletsOf (first : Ref) (source : Option Wire) : List Outlet :=
  (source.map fun wire => { ref := first + wire, slot := 0 }).toList

/-- The node of gate `i`. -/
def Script.Gate.node (gate : Gate) (first i : Nat) : Node :=
  { Node.ofBody gate.body with
    id := some i
    x := gate.spot.x
    y := gate.spot.y
    inlets := gate.sources.map (outletsOf first) }

/-- A gate that computes a number puts it out. -/
theorem Script.Gate.node_outlets {gate : Gate} (pure : gate.body.isPure) (first i : Nat) :
    0 < (gate.node first i).outlets.length := by
  show 0 < (gate.body.outlets.map fun _ => (0.0 : Float)).length
  rw [List.length_map, Body.outlets_of_isPure pure]
  exact Nat.one_pos

/-- A circuit with the nodes of a script, all at once. -/
def Circuit.install (c : Circuit) (gates : Array Gate) : Circuit :=
  let first := c.pool.nodes.size
  let nodes := gates.mapIdx fun i gate => gate.node first i
  let positions := List.range gates.size
  { pool := { nodes := c.pool.nodes ++ nodes }
    graph := { c.graph with
      nodes := positions.map (first + ·)
      index := positions.map fun i => (i, first + i)
      nextId := gates.size } }

theorem Pool.get_push (nodes : Array Node) (node : Node) :
    (Pool.mk (nodes.push node)).get nodes.size = node := by
  simp [Pool.get]

theorem Pool.modify_push (nodes : Array Node) (node : Node) (f : Node → Node) :
    (Pool.mk (nodes.push node)).modify nodes.size f = ⟨nodes.push (f node)⟩ := by
  rw [Pool.modify, Pool.get_push, Pool.set, Pool.mk.injEq]
  simp [Array.setIfInBounds, Array.set_push]

/-- A circuit whose last node is this one. -/
def Circuit.withLast (nodes : Array Node) (graph : Graph) (node : Node) : Circuit :=
  { pool := { nodes := nodes.push node }, graph }

/-- The inlets of the last node are wired one after the other, each for the first time. -/
theorem Circuit.foldl_wireInlet (nodes : Array Node) (graph : Graph) (node : Node) (first : Ref)
    (done : List (List Outlet)) (sources : List (Option Wire)) :
    (sources.zipIdx done.length).foldl (fun c inlet => c.wireInlet first nodes.size inlet)
        (Circuit.withLast nodes graph { node with inlets := done ++ sources.map fun _ => [] }) =
      Circuit.withLast nodes graph
        { node with inlets := done ++ sources.map (outletsOf first) } := by
  induction sources generalizing done with
  | nil => rfl
  | cons source sources ih =>
      have wired : (Circuit.withLast nodes graph
          { node with inlets := done ++ (source :: sources).map fun _ => [] }).wireInlet first
            nodes.size (source, done.length) =
          Circuit.withLast nodes graph { node with
            inlets := (done ++ [outletsOf first source]) ++ sources.map fun _ => [] } := by
        cases source with
        | none => simp [Circuit.wireInlet, outletsOf]
        | some wire =>
            simp only [Circuit.wireInlet, Circuit.wire, Circuit.withLast, Circuit.node,
              Pool.get_push, Pool.modify_push]
            simp [outletsOf]
      have rest := ih (done ++ [outletsOf first source])
      rw [List.length_append, List.length_singleton] at rest
      rw [List.zipIdx_cons, List.foldl_cons, wired, rest, List.map_cons, List.append_assoc]
      rfl

/-- A new node is the last one. -/
theorem Circuit.insert_eq (c : Circuit) (body : Body) (x y : Int) :
    c.insert body x y =
      (Circuit.withLast c.pool.nodes
        { c.graph with
          nodes := c.graph.nodes ++ [c.pool.nodes.size]
          index := putEntry c.graph.nextId c.pool.nodes.size c.graph.index
          nextId := c.graph.nextId + 1 }
        { Node.ofBody body with id := some c.graph.nextId, x, y }, c.pool.nodes.size) := by
  simp only [Circuit.insert, Pool.add, Circuit.claim, Circuit.append, Pool.modify_push]
  rfl

/-- One more gate with as many sources as its body has inlets. -/
theorem Circuit.install_addGate (c : Circuit) (gates : Array Gate) {gate : Gate}
    (slots : gate.sources.length = gate.body.inlets.length) :
    (c.install gates).addGate c.pool.nodes.size gate = c.install (gates.push gate) := by
  have blank : (Node.ofBody gate.body).inlets = gate.sources.map fun _ => [] := by
    simp only [Node.ofBody, List.map_const', slots]
  have wired := Circuit.foldl_wireInlet (c.install gates).pool.nodes
    { (c.install gates).graph with
      nodes := (c.install gates).graph.nodes ++ [(c.install gates).pool.nodes.size]
      index := putEntry gates.size (c.install gates).pool.nodes.size (c.install gates).graph.index
      nextId := gates.size + 1 }
    { Node.ofBody gate.body with id := some gates.size, x := gate.spot.x, y := gate.spot.y }
    c.pool.nodes.size [] gate.sources
  simp only [List.nil_append, ← blank] at wired
  have fresh : gates.size ∉ (c.install gates).graph.index.map Prod.fst := by
    simp [Circuit.install]
  rw [Circuit.addGate, Circuit.insert_eq]
  refine wired.trans ?_
  rw [putEntry_of_fresh fresh]
  simp [Circuit.install, Circuit.withLast, List.range_succ, Gate.node]

end Adding

section Building

/-- Gates that are added to a circuit without nodes, one after the other. -/
theorem Circuit.build_workspace (c : Circuit) (mode : CompileMode) {gates : Array Gate}
    (slots : ∀ gate ∈ gates.toList, gate.sources.length = gate.body.inlets.length) :
    (c.workspace mode).build gates = (c.workspace mode).install gates := by
  have empty : c.workspace mode = (c.workspace mode).install #[] := by
    cases mode <;> simp [Circuit.workspace, Circuit.install, Graph.clear]
  obtain ⟨gates⟩ := gates
  rw [Circuit.build, ← Array.foldl_toList]
  induction gates using List.reverseRecOn with
  | nil => exact empty
  | append_singleton gates gate ih =>
      have earlier := ih fun other mem => slots other (List.mem_append_left _ mem)
      have last := slots gate (List.mem_append_right _ List.mem_cons_self)
      rw [List.foldl_append, earlier, List.foldl_cons, List.foldl_nil,
        Circuit.install_addGate _ _ last, List.push_toArray]

theorem Script.compile_slots (source : String) : ∀ gate ∈ (Script.compile source).gates.toList,
    gate.sources.length = gate.body.inlets.length := by
  intro gate mem
  obtain ⟨i, found⟩ := List.mem_iff_getElem?.mp mem
  exact ((compile_valid source).wired i gate found).slots

variable (c : Circuit) (mode : CompileMode) (source : String)

/-- A graph that adopts what was built apart, and a graph that was cleared and built anew, hold the
same nodes. -/
theorem Circuit.compile_eq :
    c.compile mode source =
      let compilation := Script.compile source
      let result : CompileResult :=
        { fault := compilation.fault, symbols := compilation.symbols
          warnings := compilation.warnings }
      match compilation.fault, mode with
      | some _, .atomic => (c, { result with symbols := [] })
      | _, _ => (c.install compilation.gates, result) := by
  have built := c.build_workspace mode (compile_slots source)
  simp only [Circuit.compile, built]
  generalize Script.compile source = compilation
  obtain ⟨assembly, fault⟩ := compilation
  cases mode <;> cases fault <;> rfl

/-- Whatever becomes of the circuit, the fault and the warnings are told. -/
theorem Circuit.compile_tells :
    (c.compile mode source).2.fault = (Script.compile source).fault ∧
      (c.compile mode source).2.warnings = (Script.compile source).warnings := by
  rw [Circuit.compile_eq]
  dsimp only
  split <;> exact ⟨rfl, rfl⟩

/-- A script leaves the circuit alone or replaces its nodes. -/
theorem Circuit.compile_leaves :
    (c.compile mode source).1 = c ∨
      (c.compile mode source).1 = c.install (Script.compile source).gates := by
  rw [Circuit.compile_eq]
  dsimp only
  split
  · exact .inl rfl
  · exact .inr rfl

variable {mode source}

/-- What is left of a script is installed, be it refused or not. -/
theorem Circuit.compile_left (left : (Script.compile source).fault = none ∨ mode = .partialGates) :
    c.compile mode source = (c.install (Script.compile source).gates,
      { fault := (Script.compile source).fault, symbols := (Script.compile source).symbols
        warnings := (Script.compile source).warnings }) := by
  rw [Circuit.compile_eq]
  generalize Script.compile source = compilation at left ⊢
  obtain ⟨assembly, fault⟩ := compilation
  obtain clean | rfl := left
  · obtain rfl : fault = none := clean
    rfl
  · cases fault <;> rfl

/-- A graph that is not to be replaced in part stays as it was. -/
theorem Circuit.compile_refused {fault : Fault} (refused : (Script.compile source).fault = some fault) :
    c.compile .atomic source =
      (c, { fault := some fault, symbols := [], warnings := (Script.compile source).warnings }) := by
  rw [Circuit.compile_eq]
  simp only [refused]

end Building

end SignalGraph
