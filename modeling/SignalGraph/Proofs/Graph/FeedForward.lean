import SignalGraph.Proofs.Graph.Compiled
import SignalGraph.Proofs.Graph.Matching
import SignalGraph.Proofs.Script.Given
import SignalGraph.Proofs.Session.Shown

/-!
Compiled graphs lead forward. Every wire comes from the one outlet of an earlier node without state,
and no inlet waits for a later node. So the first tick settles all outlets, and later ticks leave
them as they are.
-/

namespace SignalGraph

open Script

section Wires

/-- Kinds without state, whose one outlet depends on their inlets alone. -/
def Kind.isPure : Kind → Bool
  | .constant => true
  | .math => true
  | .logic => true
  | _ => false

theorem Body.isPure_kind (body : Body) : body.kind.isPure = body.isPure := by
  cases body <;> rfl

/-- A circuit whose ids are positions and whose wires lead from outlets of nodes without state to
later nodes. No inlet has two sources, and all inlets of operations have one. -/
structure Circuit.FeedForward (c : Circuit) : Prop where
  ids : c.nodes.map Node.id = (List.range c.nodes.length).map some
  forward : ∀ link ∈ c.links, link.source < link.target
  sources : ∀ link ∈ c.links, link.outletSlot = 0 ∧
    ∃ node ∈ c.nodes, node.idNumber = link.source ∧ node.kind.isPure
  inlets : ∀ node ∈ c.nodes, node.inlets.length = node.body.inlets.length
  single : ∀ node ∈ c.nodes, ∀ sources ∈ node.inlets, sources.length ≤ 1
  fed : ∀ node ∈ c.nodes, node.kind = .math ∨ node.kind = .logic →
    ∀ sources ∈ node.inlets, sources.length = 1

variable {c : Circuit} {gates : Array Gate}

theorem Circuit.install_nodes (c : Circuit) (gates : Array Gate) :
    (c.install gates).nodes =
      gates.toList.mapIdx fun i gate => gate.node c.pool.nodes.size i := by
  rw [Circuit.nodes, (c.install_installed gates).nodes, List.map_map]
  exact map_range_eq_mapIdx fun i gate found => c.install_node gates found

theorem Circuit.mem_install_nodes {node : Node} : node ∈ (c.install gates).nodes ↔
    ∃ (i : Nat) (gate : Gate), gates.toList[i]? = some gate ∧
      gate.node c.pool.nodes.size i = node := by
  rw [c.install_nodes, List.mem_iff_getElem?]
  simp only [List.getElem?_mapIdx, Option.map_eq_some_iff]

/-- A wire between gates is one between their nodes. -/
theorem Circuit.of_mem_install_links {link : Link} (wired : WellWired gates.toList)
    (mem : link ∈ (c.install gates).links) :
    ∃ (i : Nat) (gate : Gate) (wire slot : Nat) (source : Gate), gates.toList[i]? = some gate ∧
      gates.toList[wire]? = some source ∧ wire < i ∧ source.body.isPure ∧
      link = { source := wire, outletSlot := 0, target := i, inletSlot := slot } := by
  obtain ⟨node, listed, into⟩ := List.mem_flatMap.mp mem
  obtain ⟨i, gate, found, rfl⟩ := Circuit.mem_install_nodes.mp listed
  obtain ⟨⟨sources, slot⟩, entry, from_here⟩ := List.mem_flatMap.mp into
  obtain ⟨outlet, given, rfl⟩ := List.mem_map.mp from_here
  have there := List.mem_of_getElem? (List.mem_zipIdx_iff_getElem?.mp entry)
  obtain ⟨source, read, rfl⟩ := List.mem_map.mp there
  cases source with
  | none => cases given
  | some wire =>
      obtain rfl := List.mem_singleton.mp given
      obtain ⟨reader, earlier, pure⟩ := (wired i gate found).live wire read
      have early : wire < i := by
        have bound := (List.getElem?_eq_some_iff.mp earlier).1
        rw [List.length_take] at bound
        exact Nat.lt_of_lt_of_le bound (Nat.min_le_left _ _)
      rw [List.getElem?_take_of_lt early] at earlier
      refine ⟨i, gate, wire, slot, reader, found, earlier, early, pure, ?_⟩
      have bears := c.install_node gates earlier
      simp only [Circuit.node] at bears
      simp only [bears]
      rfl

/-- Gates that are given what they read make a circuit that leads forward. -/
theorem Circuit.install_feedForward (c : Circuit) (wired : WellWired gates.toList)
    (given : ∀ gate ∈ gates.toList, gate.IsGiven) : (c.install gates).FeedForward := by
  refine ⟨?_, ?_, ?_, ?_, ?_, ?_⟩
  · rw [c.install_nodes, List.length_mapIdx]
    refine List.ext_getElem (by simp) fun i _ _ => ?_
    simp [Gate.node]
  · intro link mem
    obtain ⟨i, _, wire, _, _, -, -, early, -, rfl⟩ := Circuit.of_mem_install_links wired mem
    exact Int.ofNat_lt.mpr early
  · intro link mem
    obtain ⟨_, _, wire, _, source, -, earlier, -, pure, rfl⟩ := Circuit.of_mem_install_links wired mem
    refine ⟨rfl, _, Circuit.mem_install_nodes.mpr ⟨wire, source, earlier, rfl⟩, rfl, ?_⟩
    exact source.body.isPure_kind.trans pure
  · intro node mem
    obtain ⟨i, gate, found, rfl⟩ := Circuit.mem_install_nodes.mp mem
    exact (List.length_map _).trans (wired i gate found).slots
  · intro node mem sources there
    obtain ⟨i, gate, found, rfl⟩ := Circuit.mem_install_nodes.mp mem
    obtain ⟨source, -, rfl⟩ := List.mem_map.mp there
    cases source with
    | none => exact Nat.zero_le 1
    | some wire => exact Nat.le_refl 1
  · intro node mem operation sources there
    obtain ⟨i, gate, found, rfl⟩ := Circuit.mem_install_nodes.mp mem
    obtain ⟨source, read, rfl⟩ := List.mem_map.mp there
    have reads : none ∉ gate.sources := by
      refine (given gate (List.mem_of_getElem? found)).resolve_left fun sink => ?_
      have kind : gate.body.kind = .math ∨ gate.body.kind = .logic := operation
      unfold Body.isSink at sink
      rcases kind with kind | kind <;> rw [kind] at sink <;> cases sink
    cases source with
    | none => exact absurd read reads
    | some wire => rfl

end Wires

section Outputs

/-- What the outlets of settled gates hold. -/
def Script.settledSignals (gates : List Gate) : List (Int × List Float) :=
  gates.mapIdx fun i gate =>
    ((i : Int), if gate.body.isPure then [(gateValues gates).getD i 0.0] else [])

variable {c : Circuit} {gates : List Gate} {first : Nat}

/-- Once all gates are settled, the signals of a circuit say no more than the gates do. -/
theorem Circuit.Installed.signals (h : c.Installed gates first) (wired : WellWired gates)
    (sound : c.Sound) (settled : Settled gates first gates.length c.pool) :
    c.signals = settledSignals gates := by
  rw [sound.signals_eq, settledSignals, Circuit.nodes, h.nodes, List.map_map, List.map_map]
  refine map_range_eq_mapIdx fun i gate found => ?_
  have bound := (List.getElem?_eq_some_iff.mp found).1
  have hosted := h.hosts.hosted i gate found
  have id : (c.node (first + i)).idNumber = i := by
    rw [Node.idNumber, show (c.node (first + i)).id = some i from hosted.id]
  refine Prod.ext id ?_
  change (c.pool.get (first + i)).outlets =
    if gate.body.isPure then [(gateValues gates).getD i 0.0] else []
  split
  · rename_i pure
    exact settled i gate bound found pure
  · rename_i stateful
    obtain ⟨sink, start⟩ := (wired i gate found).body.resolve_left stateful
    have listed : first + i ∈ c.graph.nodes := by
      rw [h.nodes]
      exact List.mem_map.mpr ⟨i, List.mem_range.mpr bound, rfl⟩
    have length := (sound.wired _ listed).outlets
    rw [show (c.node (first + i)).body.outlets = gate.body.outlets from hosted.keeps.outlets,
      start] at length
    refine List.eq_nil_of_length_eq_zero (length.trans ?_)
    cases sink <;> rfl

/-- All ticks that complete leave the same signals. -/
theorem Circuit.Installed.tick_signals (h : c.Installed gates first) (wired : WellWired gates)
    (sound : c.Sound) {dt : Float} {controls : Controls}
    (completes : (c.tick dt controls).2 = none) :
    (c.tick dt controls).1.signals = settledSignals gates :=
  (h.tick dt controls).signals wired (sound.tick dt controls)
    ((h.ticked wired dt controls).settled completes)

/-- If any tick of installed gates completes then the first one does, and leaves the same signals. -/
theorem Circuit.install_settles (c : Circuit) {gates : Array Gate}
    (wired : WellWired gates.toList) {history : List (Float × Controls)} {dt : Float}
    {controls : Controls}
    (completes : (((c.install gates).ticks history).tick dt controls).2 = none) (dt' : Float)
    (controls' : Controls) :
    ((c.install gates).tick dt' controls').2 = none ∧
      (((c.install gates).ticks history).tick dt controls).1.signals =
        ((c.install gates).tick dt' controls').1.signals := by
  have first := c.install_installed gates
  have later := first.ticks history
  have sound := c.install_sound wired
  have completes' : ((c.install gates).tick dt' controls').2 = none := by
    rw [first.tick_fault wired, ← later.tick_fault wired dt controls]
    exact completes
  refine ⟨completes', (later.tick_signals wired (sound.ticks history) completes).trans ?_⟩
  exact (first.tick_signals wired sound completes').symm

end Outputs

section Compiling

/-- Whatever a script says, the circuit that it leaves leads forward, also when it is refused after
some of its gates were made. If any tick completes then the first one does, whatever their lengths
and controls are, and after both the outlets hold the same numbers. -/
theorem Circuit.compile_feedForward (c : Circuit) (mode : CompileMode) (source : String)
    (left : (c.compile mode source).2.fault = none ∨ mode = .partialGates) :
    let compiled := (c.compile mode source).1
    compiled.FeedForward ∧
      ∀ history dt controls, ((compiled.ticks history).tick dt controls).2 = none →
        ∀ dt' controls', (compiled.tick dt' controls').2 = none ∧
          ((compiled.ticks history).tick dt controls).1.signals =
            (compiled.tick dt' controls').1.signals := by
  intro compiled
  have wired : WellWired (Script.compile source).gates.toList := (compile_valid source).wired
  rw [(c.compile_tells mode source).1] at left
  rw [show compiled = c.install (Script.compile source).gates from
    congrArg Prod.fst (c.compile_left left)]
  refine ⟨c.install_feedForward wired (compile_given source), ?_⟩
  intro history dt controls completes dt' controls'
  exact c.install_settles wired completes dt' controls'

/-- A script that ends inside a condition, with a merge and a triggered sink before. -/
theorem Circuit.compile_feedForward_cut :
    let source := "x = 1; if (x > 0) \x7b x = x - y; beep(x); if (x"
    let result := (Circuit.ofSeed 0).compile .partialGates source
    result.2.fault.isSome ∧ (result.2.fault = none ∨ CompileMode.partialGates = .partialGates) ∧
      result.1.FeedForward ∧
      ∀ history dt controls, ((result.1.ticks history).tick dt controls).2 = none →
        ∀ dt' controls', (result.1.tick dt' controls').2 = none ∧
          ((result.1.ticks history).tick dt controls).1.signals =
            (result.1.tick dt' controls').1.signals :=
  ⟨by decide +kernel, .inr rfl, Circuit.compile_feedForward (.ofSeed 0) .partialGates _ (.inr rfl)⟩

end Compiling

end SignalGraph
