import SignalGraph.Proofs.Graph.Accepted
import SignalGraph.Proofs.Graph.Described

/-!
Lines that are skipped. Each line behind the header either adds one node, or adds one connection, or
leaves everything as it was; a line that fails does so before it has changed anything, and with a
fault that is passed over.
-/

namespace SignalGraph

section Effects

variable {l next : Loading} {entries : List (Int × Node)} {made : List Lead} {first : Nat}

theorem Loading.Holds.mem_links (h : l.Holds entries made first) (lead : Lead) :
    lead.link ∈ l.circuit.links ↔ lead ∈ made := by
  rw [(h.assembled.links_perm h.joins).mem_iff]
  exact List.mem_map_of_injective Lead.link_injective

/-- A record takes effect on a circuit if it describes a node, or asks for a connection that is not
there yet. -/
def Record.HasEffect (record : Record) (entries : List (Int × Node)) (c : Circuit) : Prop :=
  record.entry?.isSome ∨ ∃ lead, record.Connects entries lead ∧ lead.link ∉ c.links

/-- What a loaded circuit shows of a record. -/
structure Record.Shows (record : Record) (entries : List (Int × Node)) (known next : Circuit) :
    Prop where
  changes : next ≠ known ↔ record.HasEffect entries known
  adds : ∀ lead, record.Connects entries lead → lead.link ∉ known.links →
    next.links.Perm (lead.link :: known.links)

theorem Loading.Effect.shows {record : Record} (h : l.Holds entries made first)
    (effect : Loading.Effect entries made first l record next) :
    record.Shows entries l.circuit next.circuit ∧ (next.circuit = l.circuit → next = l) := by
  cases effect with
  | node new holds =>
      rename_i entry
      have differs : next.circuit ≠ l.circuit := by
        intro same
        have size := holds.assembled.size
        rw [same, h.assembled.size, List.map_append, List.length_append] at size
        simp at size
      refine ⟨⟨iff_of_true differs (.inl (by rw [new]; rfl)), fun lead asks => ?_⟩,
        fun same => absurd same differs⟩
      cases asks.entry?.symm.trans new
  | link asks new holds =>
      rename_i lead
      have grown : next.circuit.links.Perm (lead.link :: l.circuit.links) := by
        have before := h.assembled.links_perm h.joins
        have after := holds.assembled.links_perm holds.joins
        rw [List.map_append] at after
        exact after.trans (List.perm_append_singleton ..|>.trans (before.symm.cons _))
      have differs : next.circuit ≠ l.circuit := by
        intro same
        have length := grown.length_eq
        rw [same, List.length_cons] at length
        omega
      refine ⟨⟨iff_of_true differs (.inr ⟨lead, asks, (h.mem_links lead).not.mpr new⟩), ?_⟩,
        fun same => absurd same differs⟩
      intro other asks' _
      rwa [← asks.unique asks']
  | nothing no_node no_link =>
      have known : ∀ lead, record.Connects entries lead → lead.link ∈ l.circuit.links :=
        fun lead asks => (h.mem_links lead).mpr (no_link lead asks)
      refine ⟨⟨iff_of_false (fun differs => differs rfl) ?_, ?_⟩, fun _ => rfl⟩
      · rintro (node | ⟨lead, asks, new⟩)
        · rw [no_node] at node
          cases node
        · exact new (known lead asks)
      · exact fun lead asks new => absurd (known lead asks) new

end Effects

section Loaded

/-- A node without its wires. -/
def Node.bare (node : Node) : Node := { node with inlets := node.inlets.map fun _ => [] }

theorem described_plain {lines : List (List Char)} : ∀ entry ∈ described lines,
    entry.2 = { Node.ofBody entry.2.body with x := entry.2.x, y := entry.2.y } := by
  intro entry mem
  obtain ⟨line, -, found⟩ := List.mem_filterMap.mp mem
  obtain ⟨record, -, found⟩ := Option.bind_eq_some_iff.mp found
  cases record with
  | node id body x y =>
      obtain rfl := Option.some.inj found
      rfl
  | link source outletSlot target inletSlot => cases found

/-- A circuit that holds the nodes of some lines has them in order, with their positions as ids. -/
theorem Loading.Holds.nodes {l : Loading} {lines : List (List Char)} {made : List Lead}
    {first : Nat} (h : l.Holds (described lines) made first) :
    l.circuit.nodes.map Node.bare =
      (described lines).mapIdx fun i entry => { entry.2 with id := some i } := by
  rw [h.assembled.nodes_eq, List.map_map, List.length_map]
  refine map_range_eq_mapIdx fun i entry found => ?_
  have there : ((described lines).map Prod.snd)[i]? = some entry.2 := by
    rw [List.getElem?_map, found, Option.map_some]
  have plain := described_plain entry (List.mem_of_getElem? found)
  simp only [Function.comp_apply, h.assembled.node i _ there, Node.bare]
  conv => rhs; rw [plain]
  simp [Node.ofBody, Function.comp_def]

/-- Lines are skipped one by one and as a whole. To load lines is to read them without a fault that
is not passed over; the nodes are those that accepted lines describe. -/
theorem Circuit.loadLines_skips (c : Circuit) :
    (∀ lines, c.readLines lines = (c.loadLines lines, none) ∧
      (c.loadLines lines).nodes.map Node.bare =
        (described (recordLines lines)).mapIdx fun i entry => { entry.2 with id := some i }) ∧
    ∀ header before line after,
      let known := c.loadLines (header :: before)
      let next := c.loadLines (header :: (before ++ [line]))
      (next = known →
        c.loadLines (header :: (before ++ line :: after)) =
          c.loadLines (header :: (before ++ after))) ∧
      (next ≠ known ↔ isHeader header ∧ ∃ record, Record.ofLine? line = some record ∧
        record.HasEffect (described before) known) ∧
      ∀ record lead, isHeader header → Record.ofLine? line = some record →
        record.Connects (described before) lead → lead.link ∉ known.links →
          next.links.Perm (lead.link :: known.links) := by
  have start := Loading.holds_nothing c
  refine ⟨fun lines => ?_, fun header before line after => ?_⟩
  · obtain ⟨reads, made, last⟩ := start.run (recordLines lines)
    rw [c.readLines_eq, c.loadLines_eq]
    exact ⟨by rw [Loading.start, reads], last.nodes⟩
  · simp only [c.loadLines_eq, recordLines]
    by_cases headed : isHeader header
    · simp only [headed, if_true, true_and, List.foldl_append, List.foldl_cons, List.foldl_nil]
      obtain ⟨-, made, held⟩ := start.run before
      rw [← Loading.start] at held
      generalize before.foldl Loading.takeLine (Loading.start c) = l at held ⊢
      cases read : Record.read line with
      | error fault =>
          rw [l.takeLine_of_error read, Record.ofLine?_of_error read]
          simp
      | ok record =>
          rw [l.takeLine_of_read read, Record.ofLine?_of_read read]
          obtain ⟨shows, unchanged⟩ := (held.attempts record).effect.shows held
          refine ⟨fun same => by rw [unchanged same], ?_, ?_⟩
          · simpa using shows.changes
          · rintro _ lead - ⟨⟩ asks new
            exact shows.adds lead asks new
    · simp [headed]

end Loaded

end SignalGraph
