import SignalGraph.Proofs.Graph.FeedForward
import SignalGraph.Proofs.Script.Placing

/-!
Where the nodes of a script are placed. Each gate becomes one node, at the spot where the cursor was
when the gate was made. So the nodes stand in columns of four, and no two of them share a place,
whether the script is refused or not.
-/

namespace SignalGraph

open Script

/-- The place of a node in the layout. -/
def Node.spot (node : Node) : Spot := { x := node.x, y := node.y }

section Placing

variable (c : Circuit) {s : Assembly}

/-- A node has the position of its gate as its id, and the spot of the cursor there. -/
theorem Circuit.install_spots (laid : s.Laid) {i : Nat} {node : Node}
    (made : (c.install s.gates).nodes[i]? = some node) :
    node.id = some i ∧ node.spot = Spot.after i := by
  rw [c.install_nodes, List.getElem?_mapIdx, Option.map_eq_some_iff] at made
  obtain ⟨gate, found, rfl⟩ := made
  exact ⟨rfl, laid.spots i gate found⟩

/-- No two gates are placed on one spot. -/
theorem Circuit.install_apart (laid : s.Laid) :
    ((c.install s.gates).nodes.map Node.spot).Nodup := by
  rw [List.Nodup, List.pairwise_map, List.pairwise_iff_getElem]
  intro i j first second before same
  have spot := (c.install_spots laid (List.getElem?_eq_getElem first)).2
  have other := (c.install_spots laid (List.getElem?_eq_getElem second)).2
  rw [spot, other] at same
  exact Nat.ne_of_lt before (Spot.after_injective same)

theorem Circuit.install_bodies (gates : Array Gate) :
    (c.install gates).nodes.map Node.body = gates.toList.map Gate.body := by
  refine List.ext_getElem? fun i => ?_
  rw [c.install_nodes, List.getElem?_map, List.getElem?_mapIdx, List.getElem?_map, Option.map_map]
  rfl

end Placing

section Compiling

/-- Whatever a script says, also when it is refused after some of its gates were made, gate after
gate becomes a node that is placed in columns of four, and no two of them share a place. In a
circuit these are the nodes that are left, unless the script is refused and the circuit stays as it
was. -/
theorem Circuit.compile_columns (c : Circuit) (mode : CompileMode) (source : String) :
    let gates := (Script.compile source).gates
    let built := (c.workspace mode).build gates
    built.nodes.map Node.body = gates.toList.map Gate.body ∧
    (∀ (i : Nat) (node : Node), built.nodes[i]? = some node →
      node.id = some i ∧ node.x = 100 + 200 * (i / 4 : Nat) ∧ node.y = 100 + 80 * (i % 4 : Nat)) ∧
    (built.nodes.map fun node => (node.x, node.y)).Nodup ∧
    if (Script.compile source).fault.isSome ∧ mode = .atomic then (c.compile mode source).1 = c
    else (c.compile mode source).1.nodes = built.nodes := by
  intro gates built
  have laid := compile_laid source
  have made : built = (c.workspace mode).install gates :=
    c.build_workspace mode (compile_slots source)
  rw [made]
  refine ⟨Circuit.install_bodies _ gates, fun i node found => ?_, ?_, ?_⟩
  · obtain ⟨id, spot⟩ := (c.workspace mode).install_spots laid found
    rw [Spot.after_eq, Node.spot, Spot.mk.injEq] at spot
    exact ⟨id, spot⟩
  · have apart := (c.workspace mode).install_apart laid
    exact .of_map (fun place : Int × Int => Spot.mk place.1 place.2) (by rwa [List.map_map])
  · split
    · rename_i refused
      obtain ⟨some_fault, rfl⟩ := refused
      obtain ⟨fault, refused⟩ := Option.isSome_iff_exists.mp some_fault
      rw [c.compile_refused refused]
    · rename_i kept
      have left : (Script.compile source).fault = none ∨ mode = .partialGates := by
        cases mode with
        | partialGates => exact .inr rfl
        | atomic => exact .inl (by simpa using kept)
      rw [c.compile_left left]
      cases mode <;> rfl

end Compiling

end SignalGraph
