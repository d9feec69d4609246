import SignalGraph.Graph.Document
import SignalGraph.Proofs.Graph.Described
import SignalGraph.Proofs.Node.Data

/-!
Circuits made from a layout. Records of all nodes, and of all leads after them, make a circuit with
the layout in which every node starts anew and bears its position as its id.
-/

namespace SignalGraph

section Records

theorem Body.restart_keeps (body : Body) : body.Keeps body.restart := by
  cases body <;> exact ⟨rfl, rfl, rfl⟩

/-- A node as it starts with what its data hold, wired as it was. -/
def Node.restart (node : Node) (i : Nat) : Node :=
  { Node.ofBody node.body.restart with
    id := some i, x := node.x, y := node.y, inlets := node.inlets }

/-- A layout of which every node starts anew. -/
def restarted (layout : List Node) : List Node :=
  layout.mapIdx fun i node => node.restart i

def Node.record (node : Node) (i : Nat) : Record := .node i node.body.restart node.x node.y

def Lead.record (lead : Lead) : Record :=
  .link lead.source lead.outletSlot lead.target lead.inletSlot

def Lead.entry (lead : Lead) : LinkEntry where
  source := lead.source
  outletSlot := lead.outletSlot
  target := lead.target
  inletSlot := lead.inletSlot

/-- The records of a layout. -/
def records (layout : List Node) : List Record :=
  (layout.zipIdx.map fun p => p.1.record p.2) ++ (leads layout).map Lead.record

end Records

section Nodes

/-- What has been made of a layout: all nodes, and some of the leads. -/
structure Rebuilt (layout : List Node) (made : List Lead) (first : Nat) (l : Loading) : Prop where
  size : l.circuit.pool.nodes.size = first + layout.length
  nextId : l.circuit.graph.nextId = layout.length
  nodes : l.circuit.graph.nodes = (List.range layout.length).map (first + ·)
  node : ∀ i node, layout[i]? = some node → l.circuit.node (first + i) =
    { node.restart i with
      inlets := (List.range node.body.inlets.length).map (readsAt made first i) }
  table : ∀ i, i < layout.length → l.table.lookup (i : Int) = some (first + i)
  sound : l.circuit.Sound

variable {layout : List Node} {made : List Lead} {first : Nat} {l : Loading}

/-- A node to be made anew. -/
def Node.plan (node : Node) : Node := { node with body := node.body.restart }

/-- To rebuild is to assemble nodes that start anew, and to find them by their positions. -/
theorem rebuilt_iff : Rebuilt layout made first l ↔
    l.circuit.Assembled (layout.map Node.plan) made first ∧
      ∀ i, i < layout.length → l.table.lookup (i : Int) = some (first + i) := by
  have inlets (node : Node) : node.plan.body.inlets = node.body.inlets :=
    node.body.restart_keeps.inlets
  constructor
  · intro h
    refine ⟨⟨?_, ?_, ?_, ?_, h.sound⟩, h.table⟩
    · rw [List.length_map, h.size]
    · rw [List.length_map, h.nextId]
    · rw [List.length_map, h.nodes]
    · intro i plan found
      rw [List.getElem?_map, Option.map_eq_some_iff] at found
      obtain ⟨node, found, rfl⟩ := found
      rw [h.node i node found, inlets]
      rfl
  · rintro ⟨h, table⟩
    refine ⟨?_, ?_, ?_, ?_, table, h.sound⟩
    · rw [h.size, List.length_map]
    · rw [h.nextId, List.length_map]
    · rw [h.nodes, List.length_map]
    · intro i node found
      rw [h.node i node.plan (by rw [List.getElem?_map, found]; rfl), inlets]
      rfl

theorem Rebuilt.add (h : Rebuilt layout [] first l) (node : Node) :
    Rebuilt (layout ++ [node]) [] first (l.take (node.record layout.length)) := by
  obtain ⟨assembled, table⟩ := rebuilt_iff.mp h
  rw [Node.record, l.take_node]
  refine rebuilt_iff.mpr ⟨?_, fun i bound => ?_⟩
  · rw [List.map_append]
    exact assembled.insert (fun _ mem => nomatch mem) node.plan
  · rw [List.length_append, List.length_singleton] at bound
    change (putEntry (layout.length : Int) l.circuit.pool.nodes.size l.table).lookup (i : Int) = _
    by_cases last : i = layout.length
    · rw [last, lookup_putEntry_self, h.size]
    · rw [lookup_putEntry_ne (by omega), table i (by omega)]

/-- Nodes that are entered one after the other into a circuit without any. -/
theorem rebuilt_nodes (c : Circuit) (layout : List Node) :
    Rebuilt layout [] c.pool.nodes.size
      ((layout.zipIdx.map fun p => p.1.record p.2).foldl Loading.take
        { circuit := { c with graph := c.graph.clear } }) := by
  -- The last node of a layout is entered last, and gets the position that the others leave free.
  induction layout using List.reverseRecOn with
  | nil => exact rebuilt_iff.mpr ⟨c.assembled_clear, fun _ bound => nomatch bound⟩
  | append_singleton layout node ih =>
      rw [List.zipIdx_append, List.map_append, List.foldl_append]
      simpa using ih.add node

end Nodes

section Leads

variable {layout : List Node} {made : List Lead} {first : Nat} {l : Loading}

theorem Lead.Joins.plan {lead : Lead} (joins : lead.Joins layout) :
    lead.Joins (layout.map Node.plan) := by
  obtain ⟨⟨source, hsource, outlet⟩, ⟨target, htarget, inlet⟩⟩ := joins
  refine ⟨⟨source.plan, by rw [List.getElem?_map, hsource]; rfl, ?_⟩,
    ⟨target.plan, by rw [List.getElem?_map, htarget]; rfl, ?_⟩⟩
  · exact source.body.restart_keeps.outlets ▸ outlet
  · exact target.body.restart_keeps.inlets ▸ inlet

/-- A lead that is new makes a connection. -/
theorem Rebuilt.attach (h : Rebuilt layout made first l) {lead : Lead}
    (joins : lead.Joins layout) (new : lead ∉ made) :
    ∃ circuit, l.take lead.record = { l with circuit } ∧
      (∀ rest, buildLinks l (lead.entry :: rest) = buildLinks { l with circuit } rest) ∧
      Rebuilt layout (made ++ [lead]) first { l with circuit } := by
  obtain ⟨assembled, table⟩ := rebuilt_iff.mp h
  obtain ⟨_, hsource, -⟩ := joins.plan.source
  obtain ⟨_, htarget, -⟩ := joins.plan.target
  have early := (List.getElem?_eq_some_iff.mp hsource).1
  have early' := (List.getElem?_eq_some_iff.mp htarget).1
  have connected := (assembled.connect_eq_ok early early').mpr
    ⟨lead, rfl, rfl, rfl, rfl, joins.plan, rfl⟩
  rw [List.length_map] at early early'
  refine ⟨(l.circuit.wire (first + lead.source) (first + lead.target) lead.outletSlot
    lead.inletSlot).1, ?_, fun rest => ?_, rebuilt_iff.mpr ⟨?_, table⟩⟩
  · simp only [Loading.take, Loading.attempt, Lead.record, table _ early, table _ early', connected]
  · simp only [buildLinks, Lead.entry, table _ early, table _ early', connected, Except.mapError]
    rfl
  · have wired := assembled.wire joins.plan
    rwa [if_neg new] at wired

theorem readsAt_leads {node : Node} {i : Nat} (found : layout[i]? = some node) (k : Nat) :
    readsAt (leads layout) first i k = (node.inlets.getD k []).map fun outlet =>
      { outlet with ref := first + outlet.ref } := by
  rw [readsAt, filter_leads found, List.map_map]
  rfl

/-- No lead of a layout is there twice. -/
theorem Closed.lead_new (closed : Closed layout) {lead : Lead} {rest : List Lead}
    (split : made ++ lead :: rest = leads layout) : lead ∉ made := by
  have mem : lead ∈ leads layout := by
    rw [← split]
    exact List.mem_append_right _ List.mem_cons_self
  obtain ⟨target, found, slot⟩ := (closed.joins mem).target
  have listed := List.mem_of_getElem? found
  have once : (readsAt (leads layout) 0 lead.target lead.inletSlot).Nodup := by
    rw [readsAt_leads found]
    rw [← closed.inlets target listed] at slot
    rw [List.getD_eq_getElem?_getD, List.getElem?_eq_getElem slot, Option.getD_some]
    refine (closed.once target listed _ (List.getElem_mem slot)).map fun a b same => ?_
    obtain ⟨refs, slots⟩ := Outlet.mk.inj same
    exact congrArg₂ Outlet.mk (Nat.add_left_cancel refs) slots
  rw [← split, List.append_cons, readsAt, List.filter_append, List.map_append] at once
  have front := (List.nodup_append.mp once).1
  rw [show List.map _ _ = readsAt (made ++ [lead]) 0 _ _ from rfl, readsAt_concat] at front
  intro old
  exact (List.nodup_append.mp front).2.2 _ (mem_readsAt.mpr old) _ (List.mem_singleton_self _) rfl

/-- Leads that are taken in one after the other, as records or as entries of a document. -/
theorem Rebuilt.attach_all (closed : Closed layout) (rest : List Lead) (made : List Lead)
    (l : Loading) (split : made ++ rest = leads layout) (h : Rebuilt layout made first l) :
    ∃ circuit, (rest.map Lead.record).foldl Loading.take l = { l with circuit } ∧
      buildLinks l (rest.map Lead.entry) = .ok { l with circuit } ∧
      Rebuilt layout (leads layout) first { l with circuit } := by
  -- By induction on the leads that are left. They are new, so that each makes a connection.
  induction rest generalizing made l with
  | nil =>
      rw [List.append_nil] at split
      subst split
      exact ⟨l.circuit, rfl, rfl, h⟩
  | cons lead rest ih =>
      have mem : lead ∈ leads layout := by
        rw [← split]
        exact List.mem_append_right _ List.mem_cons_self
      obtain ⟨next, taken, built, attached⟩ := h.attach (closed.joins mem) (closed.lead_new split)
      rw [List.append_cons] at split
      obtain ⟨circuit, all, entries, done⟩ := ih (made ++ [lead]) _ split attached
      refine ⟨circuit, ?_, ?_, done⟩
      · rw [List.map_cons, List.foldl_cons, taken, all]
      · rw [List.map_cons, built, entries]

end Leads

section Layouts

variable {layout : List Node} {first : Nat} {l : Loading}

/-- A circuit of which all nodes and all leads have been made has the layout, with all nodes as they
start. -/
theorem Rebuilt.layout_eq (closed : Closed layout) (h : Rebuilt layout (leads layout) first l) :
    l.circuit.layout = restarted layout := by
  obtain ⟨assembled, -⟩ := rebuilt_iff.mp h
  rw [assembled.layout (fun _ mem => (closed.joins mem).plan), restarted]
  refine List.ext_getElem (by simp) fun i _ bound => ?_
  rw [List.length_mapIdx] at bound
  rw [List.getElem_mapIdx, List.getElem_mapIdx, List.getElem_map]
  have inlets : (List.range layout[i].plan.body.inlets.length).map (readsAt (leads layout) 0 i) =
      layout[i].inlets := by
    rw [show layout[i].plan.body.inlets = _ from layout[i].body.restart_keeps.inlets,
      ← closed.inlets _ (List.getElem_mem bound)]
    refine List.ext_getElem (by simp) fun k _ inside => ?_
    rw [List.getElem_map, List.getElem_range, readsAt_leads (List.getElem?_eq_getElem bound),
      List.getD_eq_getElem?_getD, List.getElem?_eq_getElem inside, Option.getD_some]
    simp only [Nat.zero_add, List.map_id']
  rw [inlets]
  rfl

end Layouts

end SignalGraph
