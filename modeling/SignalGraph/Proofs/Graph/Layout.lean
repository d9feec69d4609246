import SignalGraph.Proofs.Session.Wiring

/-!
The layout of a circuit: its nodes in order, with wires that name nodes by their positions. What a
layout leaves out is where in the pool the nodes lie.
-/

namespace SignalGraph

section Layouts

/-- A node whose inlets name what they read from by its position in a list. -/
def Node.place (nodes : List Ref) (node : Node) : Node :=
  { node with
    inlets := node.inlets.map fun sources =>
      sources.map fun outlet => { outlet with ref := nodes.idxOf outlet.ref } }

def Circuit.layout (c : Circuit) : List Node := c.nodes.map (Node.place c.graph.nodes)

/-- A wire between the nodes at two positions. -/
structure Lead where
  source : Nat
  outletSlot : Nat
  target : Nat
  inletSlot : Nat
deriving Repr, DecidableEq

/-- The wires into a node of a layout. -/
def leadsInto (node : Node) (target : Nat) : List Lead :=
  node.inlets.zipIdx.flatMap fun (sources, inletSlot) =>
    sources.map fun outlet =>
      { source := outlet.ref, outletSlot := outlet.slot, target, inletSlot }

/-- The wires of a layout, by the positions that they lead to, their slots, and age. -/
def leads (layout : List Node) : List Lead :=
  layout.zipIdx.flatMap fun (node, i) => leadsInto node i

/-- A layout in order: each node has the inlets of its body, and they read from outlets that are
there, from each of them once. -/
structure Closed (layout : List Node) : Prop where
  inlets : ∀ node ∈ layout, node.inlets.length = node.body.inlets.length
  sources : ∀ node ∈ layout, ∀ sources ∈ node.inlets, ∀ outlet ∈ sources,
    ∃ source, layout[outlet.ref]? = some source ∧ outlet.slot < source.body.outlets.length
  once : ∀ node ∈ layout, ∀ sources ∈ node.inlets, sources.Nodup

variable {c : Circuit}

theorem Circuit.layout_length (c : Circuit) : c.layout.length = c.graph.nodes.length := by
  rw [Circuit.layout, Circuit.nodes, List.length_map, List.length_map]

theorem Circuit.layout_getElem? (c : Circuit) (i : Nat) :
    c.layout[i]? = c.graph.nodes[i]?.map fun ref => (c.node ref).place c.graph.nodes := by
  rw [Circuit.layout, Circuit.nodes, List.getElem?_map, List.getElem?_map, Option.map_map]
  rfl

theorem Circuit.layout_idxOf {ref : Ref} (listed : ref ∈ c.graph.nodes) :
    c.layout[c.graph.nodes.idxOf ref]? = some ((c.node ref).place c.graph.nodes) := by
  rw [c.layout_getElem?, List.getElem?_idxOf listed, Option.map_some]

theorem Circuit.Sound.closed (h : c.Sound) : Closed c.layout := by
  have wired : ∀ node ∈ c.layout, ∃ ref ∈ c.graph.nodes,
      node = (c.node ref).place c.graph.nodes := by
    intro node mem
    obtain ⟨_, there, rfl⟩ := List.mem_map.mp mem
    obtain ⟨ref, listed, rfl⟩ := List.mem_map.mp there
    exact ⟨ref, listed, rfl⟩
  refine ⟨?_, ?_, ?_⟩
  · intro node mem
    obtain ⟨ref, listed, rfl⟩ := wired node mem
    exact (List.length_map _).trans (h.wired ref listed).inlets
  · intro node mem sources given outlet from_here
    obtain ⟨ref, listed, rfl⟩ := wired node mem
    obtain ⟨before, given', rfl⟩ := List.mem_map.mp given
    obtain ⟨outlet, from_there, rfl⟩ := List.mem_map.mp from_here
    obtain ⟨source, slot⟩ := (h.wired ref listed).sources before given' outlet from_there
    rw [show (c.pool.get outlet.ref).outlets.length = _ from
      (h.wired outlet.ref source).outlets] at slot
    exact ⟨_, Circuit.layout_idxOf source, slot⟩
  · intro node mem sources given
    obtain ⟨ref, listed, rfl⟩ := wired node mem
    obtain ⟨before, given', rfl⟩ := List.mem_map.mp given
    have reads := h.wired ref listed
    refine List.Nodup.map_on (fun first from_there second _ same => ?_) (reads.once before given')
    have member := (reads.sources before given' first from_there).1
    obtain ⟨position, slot⟩ := Outlet.mk.inj same
    exact congrArg₂ Outlet.mk ((List.idxOf_inj member).mp position) slot

end Layouts

section Positions

variable {c : Circuit}

theorem Circuit.Sound.position (h : c.Sound) {ref : Ref} (listed : ref ∈ c.graph.nodes) :
    c.positions.lookup (c.node ref).idNumber = some (c.graph.nodes.idxOf ref) := by
  let entry (p : Node × Nat) : Int × Nat := (p.1.idNumber, p.2)
  have keys : (c.nodes.zipIdx.map entry).map Prod.fst = c.nodes.map Node.idNumber := by
    rw [List.map_map, ← List.zipIdx_map_fst 0 c.nodes, List.map_map, List.zipIdx_map_fst]
    rfl
  have nodup : ((c.nodes.zipIdx.map entry).map Prod.fst).Nodup := by
    rw [keys]
    exact h.ids_increasing.imp fun less => Int.ne_of_lt less
  have positions : c.positions = c.nodes.zipIdx.map entry := foldl_putEntry entry _ nodup
  have found : c.nodes[c.graph.nodes.idxOf ref]? = some (c.node ref) := by
    rw [Circuit.nodes, List.getElem?_map, List.getElem?_idxOf listed, Option.map_some]
  rw [positions]
  refine lookup_of_mem nodup (List.mem_map.mpr ⟨(c.node ref, _), ?_, rfl⟩)
  exact List.mem_zipIdx_iff_getElem?.mpr found

theorem Circuit.Sound.position_of_zipIdx (h : c.Sound) {node : Node} {i : Nat}
    (entry : (node, i) ∈ c.nodes.zipIdx) : c.positions.lookup node.idNumber = some i := by
  have there := List.mem_zipIdx_iff_getElem?.mp entry
  rw [Circuit.nodes, List.getElem?_map, Option.map_eq_some_iff] at there
  obtain ⟨ref, found, rfl⟩ := there
  obtain ⟨bound, same⟩ := List.getElem?_eq_some_iff.mp found
  have index := h.nodes_nodup.idxOf_getElem i bound
  rw [same] at index
  rw [h.position (List.mem_of_getElem? found), index]

/-- A connection between the positions of its ends. -/
def Circuit.lead (c : Circuit) (link : Link) : Lead where
  source := (c.positions.lookup link.source).getD 0
  outletSlot := link.outletSlot
  target := (c.positions.lookup link.target).getD 0
  inletSlot := link.inletSlot

theorem Circuit.Sound.links_map_lead (h : c.Sound) : c.links.map c.lead = leads c.layout := by
  have listed : c.links = c.nodes.zipIdx.flatMap fun p => c.pool.linksInto p.1 := by
    rw [Circuit.links]
    conv => lhs; rw [← List.zipIdx_map_fst 0 c.nodes, List.flatMap_map]
  rw [listed, leads, Circuit.layout, List.zipIdx_map, List.flatMap_map, List.map_flatMap]
  refine List.flatMap_congr fun (node, i) entry => ?_
  have target := h.position_of_zipIdx entry
  obtain ⟨ref, listed, rfl⟩ :=
    List.mem_map.mp (List.mem_of_getElem? (List.mem_zipIdx_iff_getElem?.mp entry))
  simp only [Pool.linksInto, leadsInto, Node.place, Prod.map, id]
  rw [List.zipIdx_map, List.flatMap_map, List.map_flatMap]
  refine List.flatMap_congr fun (sources, inletSlot) entry => ?_
  have given := List.mem_of_getElem? (List.mem_zipIdx_iff_getElem?.mp entry)
  simp only [List.map_map, Prod.map, id]
  refine List.map_congr_left fun outlet from_here => ?_
  have source := ((h.wired ref listed).sources sources given outlet from_here).1
  have position := h.position source
  simp only [Circuit.node] at position
  simp only [Function.comp_apply, Circuit.lead, target, position, Option.getD_some]

/-- Both ends of a connection are found at the positions that its lead has. -/
theorem Circuit.Sound.lookup_lead (h : c.Sound) {link : Link} (mem : link ∈ c.links) :
    c.positions.lookup link.source = some (c.lead link).source ∧
      c.positions.lookup link.target = some (c.lead link).target := by
  obtain ⟨⟨source, hsource⟩, target, htarget⟩ := h.link_positions mem
  simp only [Circuit.lead, hsource, htarget, Option.getD_some, and_self]

end Positions

section Inlets

/-- The leads to one inlet are what the inlet reads from. -/
theorem filter_leads {layout : List Node} {node : Node} {i : Nat} (found : layout[i]? = some node)
    (k : Nat) :
    (leads layout).filter (fun lead => lead.inletSlot = k && lead.target = i) =
      (node.inlets.getD k []).map fun outlet =>
        { source := outlet.ref, outletSlot := outlet.slot, target := i, inletSlot := k } := by
  have targets := filter_flatMap_zipIdx (f := fun p => leadsInto p.1 p.2) Lead.target
    (fun p lead mem => by
      obtain ⟨_, -, mem⟩ := List.mem_flatMap.mp mem
      obtain ⟨_, -, rfl⟩ := List.mem_map.mp mem
      rfl) layout 0 i
  have slots := filter_flatMap_zipIdx
    (f := fun p => p.1.map fun outlet : Outlet =>
      ({ source := outlet.ref, outletSlot := outlet.slot, target := i, inletSlot := p.2 } : Lead))
    Lead.inletSlot (fun p lead mem => by
      obtain ⟨_, -, rfl⟩ := List.mem_map.mp mem
      rfl) node.inlets 0 k
  simp only [Nat.zero_add, found, Option.map_some, Option.getD_some] at targets slots
  rw [← List.filter_filter, leads, targets, leadsInto, slots, List.getD_eq_getElem?_getD]
  cases node.inlets[k]? <;> rfl

/-- A lead from an outlet to an inlet of nodes in a list. -/
structure Lead.Joins (lead : Lead) (nodes : List Node) : Prop where
  source : ∃ source, nodes[lead.source]? = some source ∧
    lead.outletSlot < source.body.outlets.length
  target : ∃ target, nodes[lead.target]? = some target ∧
    lead.inletSlot < target.body.inlets.length

theorem Closed.joins {layout : List Node} (closed : Closed layout) {lead : Lead}
    (mem : lead ∈ leads layout) : lead.Joins layout := by
  obtain ⟨⟨target, i⟩, entry, mem⟩ := List.mem_flatMap.mp mem
  obtain ⟨⟨sources, inletSlot⟩, slot, mem⟩ := List.mem_flatMap.mp mem
  obtain ⟨outlet, from_here, rfl⟩ := List.mem_map.mp mem
  have found := List.mem_zipIdx_iff_getElem?.mp entry
  have there := List.mem_zipIdx_iff_getElem?.mp slot
  have listed := List.mem_of_getElem? found
  refine ⟨closed.sources target listed sources (List.mem_of_getElem? there) outlet from_here,
    target, found, ?_⟩
  rw [← closed.inlets target listed]
  exact (List.getElem?_eq_some_iff.mp there).1

end Inlets

end SignalGraph
