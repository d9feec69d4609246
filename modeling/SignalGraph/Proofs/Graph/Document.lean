import SignalGraph.Proofs.Graph.Accepted
import SignalGraph.Proofs.Graph.Rebuilt

/-!
Circuits through documents. The document of a sound circuit passes its own check, and the circuit
that is built from it has the same layout, with all nodes as they start.
-/

namespace SignalGraph

section Entries

def Node.entry (node : Node) (i : Nat) : NodeEntry where
  id := i
  kind := node.kind
  x := node.x
  y := node.y
  params := node.body.params

/-- The document of a layout. -/
def document (layout : List Node) : Document where
  nodes := layout.zipIdx.map fun p => p.1.entry p.2
  links := (leads layout).map Lead.entry

/-- The parameters that a body reports make it anew. -/
theorem Node.entry_body (node : Node) (i : Nat) : (node.entry i).body = .ok node.body.restart := by
  obtain ⟨_, _, _, body, _, _⟩ := node
  cases body with
  | math op => cases op <;> rfl
  | logic op => cases op <;> rfl
  | _ => rfl

theorem buildNodes_entries (l : Loading) (nodes : List (Node × Nat)) :
    buildNodes l (nodes.map fun p => p.1.entry p.2) =
      .ok ((nodes.map fun p => p.1.record p.2).foldl Loading.take l) := by
  induction nodes generalizing l with
  | nil => rfl
  | cons p nodes ih =>
      obtain ⟨node, i⟩ := p
      simp only [List.map_cons, buildNodes, node.entry_body i, List.foldl_cons]
      rw [Node.record, l.take_node]
      exact ih _

variable {layout : List Node}

/-- A body as it starts reports the parameters that it reported before. -/
theorem Body.restart_params (body : Body) : body.restart.params = body.params := by
  cases body <;> rfl

theorem Node.restart_entry (node : Node) (i : Nat) : (node.restart i).entry i = node.entry i := by
  simp only [Node.entry, Node.restart, Node.ofBody, Node.kind, node.body.restart_keeps.kind,
    node.body.restart_params]

/-- The document of a layout does not change when all nodes start anew. -/
theorem document_restarted (layout : List Node) :
    document (restarted layout) = document layout := by
  have nodes : (restarted layout).zipIdx.map (fun p => p.1.entry p.2) =
      layout.zipIdx.map fun p => p.1.entry p.2 := by
    rw [restarted, zipIdx_mapIdx, List.map_map]
    exact List.map_congr_left fun p _ => p.1.restart_entry p.2
  have links : leads (restarted layout) = leads layout := by
    rw [leads, restarted, zipIdx_mapIdx, List.flatMap_map]
    rfl
  rw [document, document, nodes, links]

theorem build_document (closed : Closed layout) (c : Circuit) :
    ∃ built, (document layout).build c = .ok built ∧ built.Sound ∧
      built.layout = restarted layout := by
  have nodes := rebuilt_nodes c layout
  obtain ⟨built, -, links, done⟩ := Rebuilt.attach_all closed (leads layout) [] _ rfl nodes
  refine ⟨built, ?_, done.sound, done.layout_eq closed⟩
  simp only [Document.build, document, buildNodes_entries, links, bind, Except.bind]
  rfl

end Entries

section Checks

variable {layout : List Node}

theorem document_ids (layout : List Node) :
    (document layout).ids = (List.range layout.length).map Int.ofNat := by
  rw [Document.ids, document, List.map_map]
  change layout.zipIdx.map (Int.ofNat ∘ Prod.snd) = _
  rw [← List.map_map, List.zipIdx_map_snd, List.range_eq_range']

theorem document_ids_nodup (layout : List Node) : (document layout).ids.Nodup := by
  rw [document_ids]
  exact List.nodup_range.map fun _ _ same => Int.ofNat.inj same

/-- Positions stand at themselves. -/
theorem document_idxOf {i : Nat} (bound : i < layout.length) :
    (document layout).ids.idxOf (i : Int) = i := by
  have inside : i < (document layout).ids.length := by simpa [document_ids] using bound
  have there : (document layout).ids[i] = (i : Int) := by simp [document_ids]
  rw [← there]
  exact (document_ids_nodup layout).idxOf_getElem i inside

theorem Node.entry_describes (node : Node) (i : Nat) : (node.entry i).Describes node.plan :=
  ⟨node.body.restart_keeps.kind, rfl, rfl, node.entry_body i⟩

/-- The nodes and leads of a layout in order are a plan for its document. -/
theorem document_planned (closed : Closed layout) :
    (document layout).Planned (layout.map Node.plan) := by
  constructor
  · rw [← map_zipIdx_fst Node.plan layout, document, List.forall₂_map_left_iff,
      List.forall₂_map_right_iff, List.forall₂_same]
    intro p _
    exact p.1.entry_describes p.2
  · intro link entry
    obtain ⟨lead, mem, rfl⟩ := List.mem_map.mp entry
    have joins := closed.joins mem
    have same : lead.entry.lead (document layout).ids = lead := by
      obtain ⟨⟨_, source, -⟩, ⟨_, target, -⟩⟩ := joins
      simp only [LinkEntry.lead, Lead.entry, Int.toNat_natCast,
        document_idxOf (List.getElem?_eq_some_iff.mp source).1,
        document_idxOf (List.getElem?_eq_some_iff.mp target).1]
    rw [same]
    exact joins.plan

/-- The document of a layout in order has no issues. -/
theorem document_valid (closed : Closed layout) :
    (document layout).validate = .ok (document layout) := by
  have unsigned : ∀ link ∈ (document layout).links, link.Unsigned := by
    intro link entry
    obtain ⟨lead, -, rfl⟩ := List.mem_map.mp entry
    exact ⟨Int.natCast_nonneg _, Int.natCast_nonneg _⟩
  exact (Document.validate_eq_ok unsigned).mpr
    ⟨rfl, document_ids_nodup layout, _, document_planned closed⟩

variable {c : Circuit}

theorem Circuit.Sound.entries_eq (h : c.Sound) : c.entries = .ok (document c.layout) := by
  refine bind_eq_ok.mpr ⟨(document c.layout).nodes, ?_, bind_eq_ok.mpr
    ⟨(document c.layout).links, ?_, rfl⟩⟩
  · conv => lhs; rw [← List.zipIdx_map_fst 0 c.nodes, List.mapM_map]
    rw [document, Circuit.layout, List.zipIdx_map, List.map_map]
    refine mapM_eq_map fun p entry => ?_
    simp only [Function.comp_apply, h.position_of_zipIdx entry]
    rfl
  · rw [document, ← h.links_map_lead, List.map_map]
    refine mapM_eq_map fun link mem => ?_
    obtain ⟨source, target⟩ := h.lookup_lead mem
    simp only [source, target]
    rfl

theorem Circuit.Sound.toDocument_eq (h : c.Sound) : c.toDocument = .ok (document c.layout) := by
  simp only [Circuit.toDocument, h.entries_eq, bind, Except.bind, document_valid h.closed]
  rfl

end Checks

end SignalGraph
