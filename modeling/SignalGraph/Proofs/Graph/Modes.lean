import SignalGraph.Proofs.Graph.Layout
import SignalGraph.Proofs.Script.Growth

/-!
The two modes of compiling. An accepted script leaves the same nodes in every circuit, whatever the
mode. A refused script leaves an atomic circuit as it was, and otherwise the nodes of all that was
read before the fault, which read from each other only.
-/

namespace SignalGraph

open Script

section Installing

/-- The layout of gates in order. -/
def Script.layoutOf (gates : List Gate) : List Node := gates.mapIdx fun i gate => gate.node 0 i

theorem Script.layoutOf_prefix {gates more : List Gate} (h : gates <+: more) :
    layoutOf gates <+: layoutOf more := by
  obtain ⟨rest, rfl⟩ := h
  rw [layoutOf, layoutOf, List.mapIdx_append]
  exact List.prefix_append _ _

/-- Whatever the circuit held before, installed gates have a layout of their own. -/
theorem Circuit.install_layout (c : Circuit) {gates : Array Gate}
    (wired : WellWired gates.toList) : (c.install gates).layout = layoutOf gates.toList := by
  have installed := c.install_installed gates
  rw [Circuit.layout, Circuit.nodes, List.map_map, installed.nodes, List.map_map]
  refine map_range_eq_mapIdx fun i gate found => ?_
  have inlets : (gate.node c.pool.nodes.size i).inlets.map (fun sources =>
      sources.map fun outlet => { outlet with
        ref := ((List.range gates.toList.length).map (c.pool.nodes.size + ·)).idxOf
          outlet.ref }) = (gate.node 0 i).inlets := by
    simp only [Gate.node, List.map_map]
    refine List.map_congr_left fun source given => ?_
    cases source with
    | none => rfl
    | some wire =>
        have live := ((wired i gate found).live wire given).mono (List.take_prefix i _)
        simp only [Function.comp_apply, outletsOf, Option.map_some, Option.toList_some,
          List.map_cons, List.map_nil, idxOf_range_map live.lt, Nat.zero_add]
  rw [Function.comp_apply, Function.comp_apply, c.install_node gates found, Node.place, inlets]
  rfl

end Installing

section Modes

/-- A circuit that holds the nodes of a script up to its fault. They are the gates of the tokens
before the fault, among them all gates that were certain at an earlier token; each name stands for a
node that puts out a number, and all inlets read from the nodes' outlets. -/
structure Circuit.HoldsUpTo (c : Circuit) (source : String) (fault : Fault)
    (symbols : List (String × Nat)) : Prop where
  built : ∃ before last, Stops (tokens source) before last fault ∧
    c.layout = layoutOf (last.settle.emit.run {}).2.gates.toList ∧
    ∀ earlier r, earlier <+: before → earlier.foldlM Reading.step .empty = .ok r →
      layoutOf r.gates <+: c.layout
  names : ∀ name id, (name, id) ∈ symbols →
    ∃ node ∈ c.nodes, node.id = some id ∧ 0 < node.outlets.length
  sources : ∀ node ∈ c.nodes, ∀ sources ∈ node.inlets, ∀ outlet ∈ sources,
    outlet.ref ∈ c.graph.nodes ∧ outlet.slot < (c.node outlet.ref).outlets.length

/-- The gates of a refused script, installed. -/
theorem Circuit.install_holds (c : Circuit) {source : String} {fault : Fault}
    (refused : (Script.compile source).fault = some fault) :
    (c.install (Script.compile source).gates).HoldsUpTo source fault
      (Script.compile source).symbols := by
  have valid := compile_valid source
  have wired : WellWired (Script.compile source).gates.toList := valid.wired
  have sound := c.install_sound wired
  have installed := c.install_installed (Script.compile source).gates
  refine ⟨?_, ?_, ?_⟩
  · cases hread : read (tokens source) with
    | mk r stopped =>
        have gates : (Script.compile source).gates = (r.emit.run {}).2.gates := by
          simp only [Script.compile, compileTokens, hread]
        obtain rfl : stopped = some fault := by
          simpa only [Script.compile, compileTokens, hread] using refused
        obtain ⟨before, last, stops, rfl⟩ := read_stops hread
        rw [c.install_layout wired, gates]
        refine ⟨before, last, stops, rfl, fun earlier r early reads => ?_⟩
        exact layoutOf_prefix (stops.gates early reads)
  · intro name id mem
    obtain ⟨gate, found, pure⟩ := valid.bound name id mem
    have bound := (List.getElem?_eq_some_iff.mp found).1
    have node := c.install_node (Script.compile source).gates found
    refine ⟨gate.node c.pool.nodes.size id, ?_, rfl, Gate.node_outlets pure _ _⟩
    rw [Circuit.nodes, installed.nodes, ← node]
    exact List.mem_map.mpr ⟨_, List.mem_map.mpr ⟨id, List.mem_range.mpr bound, rfl⟩, rfl⟩
  · intro node mem
    obtain ⟨ref, listed, rfl⟩ := List.mem_map.mp mem
    exact (sound.wired ref listed).sources

/-- In two circuits and in either mode a script has the same fault and warnings, and no circuit's
ticks and random numbers change. An accepted script has the same names in both, and leaves the same
nodes and the same next id. A refused script leaves an atomic circuit as it was and has no names
there; otherwise it leaves the nodes up to its fault. -/
theorem Circuit.compile_modes (c d : Circuit) (mode other : CompileMode) (source : String) :
    let first := c.compile mode source
    let second := d.compile other source
    first.2.fault = second.2.fault ∧ first.2.warnings = second.2.warnings ∧
      first.1.graph.tickCount = c.graph.tickCount ∧
      first.1.graph.generator = c.graph.generator ∧
      match first.2.fault, mode with
      | none, _ =>
          first.2 = second.2 ∧ first.1.layout = second.1.layout ∧
            first.1.graph.nextId = second.1.graph.nextId
      | some _, .atomic => first.2.symbols = [] ∧ first.1 = c
      | some fault, .partialGates => first.1.HoldsUpTo source fault first.2.symbols := by
  have wired := (compile_valid source).wired
  have holds (fault : Fault) (refused : (Script.compile source).fault = some fault) :=
    c.install_holds refused
  simp only [Circuit.compile_eq]
  cases hcompile : Script.compile source with
  | mk assembly fault =>
      simp only [hcompile] at wired holds
      cases fault with
      | none =>
          refine ⟨rfl, rfl, rfl, rfl, rfl, ?_, rfl⟩
          exact (c.install_layout wired).trans (d.install_layout wired).symm
      | some fault =>
          cases mode with
          | atomic => cases other <;> exact ⟨rfl, rfl, rfl, rfl, rfl, rfl⟩
          | partialGates => cases other <;> exact ⟨rfl, rfl, rfl, rfl, holds fault rfl⟩

end Modes

end SignalGraph
