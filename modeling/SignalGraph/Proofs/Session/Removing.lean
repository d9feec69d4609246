import SignalGraph.Proofs.Graph.Reentry
import SignalGraph.Proofs.Session.Wiring

/-!
Removals. A node that leaves a graph takes exactly its own connections with it, those from itself to
itself among them. All others stay in their order, and every node that stays loses only the wires
that came from the one that has left.
-/

namespace SignalGraph

section Scrubbing

/-- A connection leads from a node or into it. -/
def Link.Touches (link : Link) (id : Int) : Prop := link.source = id ∨ link.target = id

instance (link : Link) (id : Int) : Decidable (link.Touches id) :=
  inferInstanceAs (Decidable (link.source = id ∨ link.target = id))

variable {pool next : Pool}

/-- Connections name their ends by ids, so they do not notice other changes of the nodes. -/
theorem Pool.linksInto_congr (ids : ∀ ref, (next.get ref).idNumber = (pool.get ref).idNumber)
    (node : Node) : next.linksInto node = pool.linksInto node := by
  simp only [Pool.linksInto, ids]

/-- A node that is disconnected from an id loses the connections that lead from it. -/
theorem Pool.linksInto_dropSources (pool : Pool) (id : Int) (node : Node) :
    pool.linksInto { node with inlets := node.inlets.map (pool.dropSources id) } =
      (pool.linksInto node).filter fun link => link.source ≠ id := by
  simp only [Pool.linksInto, List.zipIdx_map, List.flatMap_map, List.filter_flatMap,
    List.filter_map]
  rfl

/-- All connections into a node name it as their target. -/
theorem Pool.target_of_mem_linksInto {node : Node} {link : Link} (mem : link ∈ pool.linksInto node) :
    link.target = node.idNumber := by
  obtain ⟨_, -, made⟩ := List.mem_flatMap.mp mem
  obtain ⟨_, -, rfl⟩ := List.mem_map.mp made
  rfl

end Scrubbing

section Circuits

/-- A circuit as it is left by one of its nodes. -/
structure Circuit.IsWithout (next c : Circuit) (ref : Ref) : Prop where
  links : next.links = c.links.filter fun link => ¬link.Touches (c.node ref).idNumber
  graph : next.graph = { c.graph with
    nodes := c.graph.nodes.filter (· ≠ ref)
    index := c.graph.index.filter (·.2 ≠ ref) }
  others : ∀ other ∈ c.graph.nodes, other ≠ ref → next.node other =
    { c.node other with
      inlets := (c.node other).inlets.map (List.filter fun outlet => outlet.ref ≠ ref) }

variable {c next : Circuit} {ref : Ref}

/-- A listed node bears the number of another one only if it is the same. -/
theorem Circuit.Sound.eq_of_idNumber (h : c.Sound) {other : Ref} (listed : ref ∈ c.graph.nodes)
    (listed' : other ∈ c.graph.nodes)
    (same : (c.node other).idNumber = (c.node ref).idNumber) : other = ref := by
  obtain ⟨id, hid, -⟩ := h.id_of_mem listed
  obtain ⟨id', hid', -⟩ := h.id_of_mem listed'
  simp only [Node.idNumber, hid, hid', Int.natCast_inj] at same
  exact h.eq_of_id listed' listed (by rw [hid, hid', same])

/-- After a removal each node that stays reads from what it read from before, the removed node
apart. -/
theorem Circuit.Sound.remove_node (h : c.Sound) (removed : c.remove ref = .ok next) {other : Ref}
    (listed : other ∈ c.graph.nodes) (stays : other ≠ ref) :
    next.node other =
      { c.node other with
        inlets := (c.node other).inlets.map (c.pool.dropSources (c.node ref).idNumber) } := by
  obtain ⟨-, rfl⟩ := Circuit.remove_eq_ok.mp removed
  refine (c.pool.scrub_all_get _ _ (h.nodes_nodup.erase ref) other).trans ?_
  exact if_pos ((List.mem_erase_of_ne stays).mpr listed)

/-- Among the sources of listed nodes, those that bear the id of a listed node are its outlets. -/
theorem Circuit.Sound.dropSources_eq (h : c.Sound) (listed : ref ∈ c.graph.nodes)
    {sources : List Outlet} (known : ∀ outlet ∈ sources, outlet.ref ∈ c.graph.nodes) :
    c.pool.dropSources (c.node ref).idNumber sources =
      sources.filter fun outlet => outlet.ref ≠ ref := by
  apply List.filter_congr
  intro outlet from_here
  rw [decide_eq_decide]
  refine not_congr ⟨h.eq_of_idNumber listed (known outlet from_here), fun same => ?_⟩
  rw [same]
  rfl

theorem Circuit.Sound.erase_eq_filter (h : c.Sound) (ref : Ref) :
    c.graph.nodes.erase ref = c.graph.nodes.filter (· ≠ ref) := by
  rw [h.nodes_nodup.erase_eq_filter]
  apply List.filter_congr
  intro other _
  by_cases same : other = ref <;> simp [same]

theorem Circuit.Sound.remove_links (h : c.Sound) (removed : c.remove ref = .ok next) :
    next.links = c.links.filter fun link => ¬link.Touches (c.node ref).idNumber := by
  obtain ⟨nodes, frame⟩ := Circuit.remove_frame removed
  have listed := (h.contains_iff ref).mp (Circuit.remove_eq_ok.mp removed).1
  have ids : ∀ other, (next.pool.get other).idNumber = (c.pool.get other).idNumber := by
    intro other
    rw [show next.pool.get other = _ from frame other]
    rfl
  let stay (links : List Link) := links.filter fun link => ¬link.Touches (c.node ref).idNumber
  -- into the removed node all connections go, and of the others those that came from it
  have own : stay (c.pool.linksInto (c.node ref)) = [] := by
    apply List.filter_eq_nil_iff.mpr
    intro link made
    simp [Link.Touches, Pool.target_of_mem_linksInto made]
  have foreign : ∀ other ∈ c.graph.nodes, other ≠ ref →
      stay (c.pool.linksInto (c.node other)) = next.pool.linksInto (next.node other) := by
    intro other mem stays
    rw [h.remove_node removed mem stays, Pool.linksInto_congr ids, Pool.linksInto_dropSources]
    apply List.filter_congr
    intro link made
    have elsewhere : link.target ≠ (c.node ref).idNumber := by
      rw [Pool.target_of_mem_linksInto made]
      exact fun same => stays (h.eq_of_idNumber listed mem same)
    simp only [Link.Touches, elsewhere, or_false]
  calc next.links
      = (c.graph.nodes.filter (· ≠ ref)).flatMap
          fun other => next.pool.linksInto (next.node other) := by
        rw [Circuit.links, Circuit.nodes, List.flatMap_map, nodes, h.erase_eq_filter]
    _ = c.graph.nodes.flatMap fun other => stay (c.pool.linksInto (c.node other)) := by
        rw [flatMap_filter]
        apply List.flatMap_congr
        intro other mem
        by_cases same : other = ref
        · subst same
          simp [own]
        · simp [same, foreign other mem same]
    _ = stay c.links := by
        rw [Circuit.links, Circuit.nodes, List.flatMap_map]
        exact List.filter_flatMap.symm

/-- What a removal leaves of a sound circuit. -/
theorem Circuit.Sound.remove_isWithout (h : c.Sound) (removed : c.remove ref = .ok next) :
    next.IsWithout c ref := by
  have listed := (h.contains_iff ref).mp (Circuit.remove_eq_ok.mp removed).1
  refine ⟨h.remove_links removed, ?_, ?_⟩
  · obtain ⟨-, rfl⟩ := Circuit.remove_eq_ok.mp removed
    have index : (c.graph.index.filter fun entry => (entry.1 : Int) ≠ (c.node ref).idNumber) =
        c.graph.index.filter (·.2 ≠ ref) := by
      apply List.filter_congr
      rintro ⟨id, other⟩ mem
      obtain ⟨listed', hid⟩ := h.mem_index.mp mem
      have number : (c.node other).idNumber = id := by rw [Node.idNumber, hid]
      rw [decide_eq_decide, ← number]
      exact not_congr ⟨h.eq_of_idNumber listed listed', fun same => by rw [← same]⟩
    rw [h.erase_eq_filter, index]
  · intro other mem stays
    have inlets : (c.node other).inlets.map (c.pool.dropSources (c.node ref).idNumber) =
        (c.node other).inlets.map (List.filter fun outlet => outlet.ref ≠ ref) := by
      apply List.map_congr_left
      intro sources given
      exact h.dropSources_eq listed fun outlet from_here =>
        ((h.wired other mem).sources sources given outlet from_here).1
    rw [h.remove_node removed mem stays, inlets]

end Circuits

section Sessions

/-- In every session that started empty, whatever messages it has answered and in either mode, every
member can be removed, also by its id. The graph loses the member from its list and from its index,
and of its connections exactly those from or to the member. No other node changes but for the wires
from the member, and ids, ticks and random numbers go on as they would have. -/
theorem Session.after_removes (generator : Random.Generator) (mode : CompileMode)
    (messages : List Fields) :
    let s := Session.after { circuit := { graph := { generator } }, mode } messages
    ∀ ref, s.circuit.contains ref → ∃ next, s.circuit.remove ref = .ok next ∧
      s.perform (.remove (s.circuit.node ref).idNumber) =
          ({ s with circuit := next }, .removed) ∧
        next.IsWithout s.circuit ref := by
  intro s ref member
  have sound : s.circuit.Sound := Session.after_sound (Circuit.sound_of_empty rfl rfl) messages
  obtain ⟨next, removed⟩ : ∃ next, s.circuit.remove ref = .ok next :=
    ⟨_, Circuit.remove_eq_ok.mpr ⟨member, rfl⟩⟩
  refine ⟨next, removed, ?_, sound.remove_isWithout removed⟩
  simp only [Session.perform, Session.remove, Circuit.find_of_contains member, bind, Except.bind,
    removed]
  rfl

/-- A sum that reads from a cursor, from a constant and from itself leaves the wire from the cursor
to another node. -/
theorem Session.after_removes_loop :
    let spawn (kind : String) : Fields := [("type", .text "SPAWN"), ("kind", .text kind)]
    let connect (source outletSlot target inletSlot : Int) : Fields :=
      [("type", .text "CONNECT"), ("source", .int source), ("source_slot", .int outletSlot),
        ("target", .int target), ("target_slot", .int inletSlot)]
    let messages := [spawn "CursorNode", spawn "MathNode", spawn "ConstantNode", spawn "TimerNode",
      connect 0 0 1 0, connect 2 0 1 0, connect 0 1 1 0, connect 1 0 1 1, connect 1 0 3 0,
      connect 0 1 3 0]
    let s := Session.after { circuit := .ofSeed 0, mode := .atomic } messages
    s.circuit.contains 1 ∧ s.circuit.links.length = 6 ∧
      ∃ next, s.circuit.remove 1 = .ok next ∧ next.graph.nodes = [0, 2, 3] ∧
        next.links = [{ source := 0, outletSlot := 1, target := 3, inletSlot := 0 }] := by
  intro spawn connect messages s
  have member : s.circuit.contains 1 := by decide +kernel
  obtain ⟨next, removed, -, without⟩ := after_removes (.ofSeed 0) .atomic messages 1 member
  refine ⟨member, by decide +kernel, next, removed, ?_, ?_⟩
  · rw [without.graph]
    decide +kernel
  · rw [without.links]
    decide +kernel

end Sessions

end SignalGraph
