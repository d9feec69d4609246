import SignalGraph.Proofs.Session.Wiring

/-!
What a session shows of its circuit. The ids of the listed nodes are all different, so that the
tables of a status have one entry for each listed node, or for each listed sink, in the order of the
list.
-/

namespace SignalGraph

section Tables

/-- Where the ids of some nodes are all different, those nodes that have an entry make the entries,
in their order. -/
theorem foldl_entries {κ α : Type} [BEq κ] [LawfulBEq κ] (key : Int → κ)
    (shown? : Node → Option α) (injective : Function.Injective key) {nodes : List Node}
    (once : (nodes.map Node.idNumber).Nodup) {set : List (κ × α) → Node → List (κ × α)}
    (sets : ∀ entries node, set entries node =
      (shown? node).elim entries fun a => putEntry (key node.idNumber) a entries) :
    nodes.foldl set [] =
      nodes.filterMap fun node => (shown? node).map fun a => (key node.idNumber, a) := by
  let named (node : Node) : Option (κ × α) := (shown? node).map fun a => (key node.idNumber, a)
  have keys : (([] ++ (nodes.filterMap named).map id).map Prod.fst).Nodup := by
    rw [List.nil_append, List.map_id, List.Nodup, List.pairwise_map, List.pairwise_filterMap]
    rw [List.Nodup, List.pairwise_map] at once
    refine once.imp fun {node other} apart => ?_
    rintro _ given _ given'
    obtain ⟨_, -, rfl⟩ := Option.map_eq_some_iff.mp given
    obtain ⟨_, -, rfl⟩ := Option.map_eq_some_iff.mp given'
    exact injective.ne apart
  have put := foldl_putEntry id (nodes.filterMap named) keys
  rw [List.nil_append, List.map_id, List.foldl_filterMap] at put
  rw [← put]
  congr 1
  funext entries node
  rw [sets]
  simp only [named]
  cases shown? node <;> rfl

variable {c : Circuit}

theorem Circuit.Sound.ids_once (h : c.Sound) : (c.nodes.map Node.idNumber).Nodup :=
  h.ids_increasing.imp fun less => Int.ne_of_lt less

theorem Circuit.Sound.signals_eq (h : c.Sound) :
    c.signals = c.nodes.map fun node => (node.idNumber, node.outlets) := by
  rw [← List.filterMap_eq_map', Circuit.signals]
  exact foldl_entries id (fun node => some node.outlets) Function.injective_id h.ids_once
    fun _ _ => rfl

theorem Circuit.Sound.sinks_eq (h : c.Sound) :
    c.sinks = c.nodes.filterMap fun node =>
      node.body.sinkState?.map fun state => (node.idNumber, state) := by
  apply foldl_entries id _ Function.injective_id h.ids_once
  intro sinks node
  cases node.body.sinkState? <;> rfl

end Tables

end SignalGraph
