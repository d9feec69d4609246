import SignalGraph.Proofs.Graph.Document

/-!
Sessions through documents. Whatever messages a session has answered, ticks and removals among them,
its graph has a document, which passes its own check. The circuit that is built from the document
has the same nodes with the same wiring, and the same document once more.
-/

namespace SignalGraph

section Mirrors

/-- What a document tells of a node: its kind, its place and its parameters. -/
def Node.profile (node : Node) : Kind × Int × Int × Fields :=
  (node.kind, node.x, node.y, node.body.params)

/-- A circuit with the nodes of another one, in the same order and with their positions as ids, each
of whose inlets reads from the same outlets in the same order. -/
structure Circuit.Mirrors (built c : Circuit) : Prop where
  ids : built.nodes.map Node.id = (List.range c.nodes.length).map some
  profiles : built.nodes.map Node.profile = c.nodes.map Node.profile
  inlets : built.layout.map Node.inlets = c.layout.map Node.inlets

theorem Node.restart_profile (node : Node) (i : Nat) : (node.restart i).profile = node.profile := by
  simp only [Node.profile, Node.restart, Node.ofBody, Node.kind, node.body.restart_keeps.kind,
    node.body.restart_params]

variable {c built : Circuit}

/-- Naming sources by positions changes nothing but inlets. -/
theorem Circuit.layout_map {α : Type} (f : Node → α)
    (places : ∀ nodes node, f (Node.place nodes node) = f node) (c : Circuit) :
    c.layout.map f = c.nodes.map f := by
  rw [Circuit.layout, List.map_map]
  apply List.map_congr_left
  intro node _
  exact places c.graph.nodes node

/-- What a new start leaves of each node. -/
theorem restarted_map {α : Type} (f : Node → α) (keeps : ∀ node i, f (Node.restart node i) = f node)
    (layout : List Node) : (restarted layout).map f = layout.map f := by
  apply List.ext_getElem
  · simp [restarted]
  · intro i _ _
    simp [restarted, keeps]

/-- A circuit with the layout of another one, all of whose nodes start anew, mirrors it. -/
theorem Circuit.mirrors_of_layout (same : built.layout = restarted c.layout) :
    built.Mirrors c := by
  constructor
  · rw [← built.layout_map Node.id fun _ _ => rfl, same]
    apply List.ext_getElem
    · simp [restarted, c.layout_length, Circuit.nodes]
    · intro i _ _
      simp [restarted, Node.restart]
  · rw [← built.layout_map Node.profile fun _ _ => rfl, same,
      restarted_map Node.profile Node.restart_profile]
    exact c.layout_map Node.profile fun _ _ => rfl
  · rw [same]
    exact restarted_map Node.inlets (fun _ _ => rfl) c.layout

/-- A sound circuit comes back from its document. -/
theorem Circuit.Sound.document_mirrors (h : c.Sound) :
    ∃ doc, c.toDocument = .ok doc ∧ doc.validate = .ok doc ∧ ∀ d : Circuit, ∃ built,
      doc.build d = .ok built ∧ built.Mirrors c ∧ built.toDocument = .ok doc := by
  refine ⟨document c.layout, h.toDocument_eq, document_valid h.closed, fun d => ?_⟩
  obtain ⟨built, builds, sound, layout⟩ := build_document h.closed d
  refine ⟨built, builds, Circuit.mirrors_of_layout layout, ?_⟩
  rw [sound.toDocument_eq, layout, document_restarted]

end Mirrors

section Sessions

/-- In every session that started empty, whatever messages it has answered and in either mode, the
graph has a document that passes its own check. Whatever circuit it replaces, the one that is built
from it has the same nodes and wiring, with positions for ids, and the same document. -/
theorem Session.after_document_mirrors (generator : Random.Generator) (mode : CompileMode)
    (messages : List Fields) :
    let c := (Session.after { circuit := { graph := { generator } }, mode } messages).circuit
    ∃ doc, c.toDocument = .ok doc ∧ doc.validate = .ok doc ∧ ∀ d : Circuit, ∃ built,
      doc.build d = .ok built ∧ built.Mirrors c ∧ built.toDocument = .ok doc := by
  intro c
  have sound : c.Sound := Session.after_sound (Circuit.sound_of_empty rfl rfl) messages
  exact sound.document_mirrors

end Sessions

end SignalGraph
