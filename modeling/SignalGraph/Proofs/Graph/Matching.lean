import SignalGraph.Proofs.Graph.Neighbours
import SignalGraph.Proofs.Node.Canonical
import SignalGraph.Proofs.Node.FanIn
import SignalGraph.Proofs.Session.Shown

/-!
Circuits that match: their nodes are in numerically equal states and read from the same outlets, in
whatever order. Ticks take matching circuits to matching ones, as long as no inlet has sources of
which some but not all hold a number.
-/

namespace SignalGraph

section Pools

/-- Two nodes in numerically equal states whose inlets read from the same outlets. -/
structure Node.Matches (node other : Node) : Prop where
  id : other.id = node.id
  place : other.x = node.x ∧ other.y = node.y
  body : other.body.canonical = node.body.canonical
  inlets : List.Forall₂ (fun sources others : List Outlet => ∀ outlet,
    outlet ∈ sources ↔ outlet ∈ others) node.inlets other.inlets
  outlets : other.outlets.map Decimal.canonical = node.outlets.map Decimal.canonical

structure Pool.Matches (pool other : Pool) : Prop where
  size : other.nodes.size = pool.nodes.size
  nodes : ∀ ref, (pool.get ref).Matches (other.get ref)

/-- At each inlet of a node either all sources hold a number, or none does. -/
def Pool.Agrees (pool : Pool) (node : Node) : Prop :=
  ∀ sources ∈ node.inlets, Unmixed (sources.map pool.signal)

instance (pool : Pool) (node : Node) : Decidable (pool.Agrees node) :=
  inferInstanceAs (Decidable (∀ sources ∈ node.inlets, Unmixed (sources.map pool.signal)))

variable {pool other : Pool}

theorem Node.Matches.idNumber {node node' : Node} (h : node.Matches node') :
    node'.idNumber = node.idNumber := by
  rw [Node.idNumber, Node.idNumber, h.id]

theorem Pool.Matches.signal (h : pool.Matches other) (outlet : Outlet) :
    Decimal.canonical (other.signal outlet) = Decimal.canonical (pool.signal outlet) := by
  have shown (node : Node) : Decimal.canonical (node.outlets.getD outlet.slot 0.0) =
      (node.outlets.map Decimal.canonical).getD outlet.slot (Decimal.canonical 0.0) :=
    (List.getD_map ..).symm
  rw [Pool.signal, Pool.signal, shown, shown, (h.nodes outlet.ref).outlets]

/-- Inlets that read from the same outlets show numerically equal numbers. -/
theorem Pool.Matches.highest? (h : pool.Matches other) {sources others : List Outlet}
    (same : ∀ outlet, outlet ∈ sources ↔ outlet ∈ others)
    (unmixed : Unmixed (sources.map pool.signal)) :
    (SignalGraph.highest? (others.map other.signal)).map Decimal.canonical =
      (SignalGraph.highest? (sources.map pool.signal)).map Decimal.canonical := by
  refine (highest?_congr unmixed ?_).symm
  intro x
  simp only [List.map_map, List.mem_map, Function.comp_apply, same, h.signal]

theorem Pool.Matches.inputs (h : pool.Matches other) {node node' : Node}
    (nodes : node.Matches node') (agrees : pool.Agrees node) :
    (other.inputs node').canonical = (pool.inputs node).canonical := by
  have inlets : ∀ {inlets others : List (List Outlet)},
      List.Forall₂ (fun sources others : List Outlet => ∀ outlet,
        outlet ∈ sources ↔ outlet ∈ others) inlets others →
      (∀ sources ∈ inlets, Unmixed (sources.map pool.signal)) →
      others.map (fun sources => (SignalGraph.highest? (sources.map other.signal)).map
          Decimal.canonical) =
        inlets.map fun sources => (SignalGraph.highest? (sources.map pool.signal)).map
          Decimal.canonical := by
    intro inlets others reads agrees
    induction reads with
    | nil => rfl
    | cons same _ ih =>
        obtain ⟨here, later⟩ := List.forall_mem_cons.mp agrees
        rw [List.map_cons, List.map_cons, h.highest? same here, ih later]
  simp only [Inputs.canonical, Pool.inputs, List.map_map]
  exact inlets nodes.inlets agrees

theorem Node.Matches.refl (node : Node) : node.Matches node :=
  ⟨rfl, ⟨rfl, rfl⟩, rfl, List.forall₂_same.mpr fun _ _ _ => Iff.rfl, rfl⟩

theorem Pool.Matches.refl (pool : Pool) : pool.Matches pool :=
  ⟨rfl, fun ref => .refl (pool.get ref)⟩

/-- What a node sees does not depend on the order of its connections exactly if at each of its
inlets either all sources hold a number, or none does. -/
theorem Pool.agrees_iff (pool : Pool) (node : Node) :
    pool.Agrees node ↔ ∀ node', node.Matches node' →
      (pool.inputs node').canonical = (pool.inputs node).canonical := by
  constructor
  · exact fun agrees node' nodes => (Pool.Matches.refl pool).inputs nodes agrees
  · intro ordered sources given
    rw [unmixed_iff]
    intro xs order
    -- the node with the sources of the inlet in another order
    have signals : List.Forall₂ (fun x outlet => x = pool.signal outlet)
        (sources.map pool.signal) sources := by
      rw [List.forall₂_map_left_iff, List.forall₂_same]
      exact fun _ _ => rfl
    obtain ⟨moved, shown, perm⟩ := List.perm_comp_forall₂ order signals
    have equal : List.Forall₂ (· = ·) xs (moved.map pool.signal) :=
      List.forall₂_map_right_iff.mpr shown
    rw [List.forall₂_eq_eq_eq] at equal
    let inlets := node.inlets.map fun others => if others = sources then moved else others
    have nodes : node.Matches { node with inlets } := by
      refine ⟨rfl, ⟨rfl, rfl⟩, rfl, ?_, rfl⟩
      rw [List.forall₂_map_right_iff, List.forall₂_same]
      intro others _ outlet
      split
      · rename_i same
        rw [same, perm.mem_iff]
      · exact Iff.rfl
    have read := ordered _ nodes
    simp only [Inputs.canonical, Pool.inputs, inlets, List.map_map] at read
    have here := List.map_inj_left.mp read sources given
    simp only [Function.comp_apply, ↓reduceIte, ← equal] at here
    exact here

end Pools

section Turns

variable (around : Surroundings) {turn other : Turn}

/-- Two turns with one generator over pools that match. -/
structure Turn.Matches (turn other : Turn) : Prop where
  pool : turn.pool.Matches other.pool
  generator : other.generator = turn.generator

/-- Whether all sources of an inlet hold a number, or none does, at each inlet whose node takes its
turn, then. -/
def Turn.Agrees (around : Surroundings) (turn : Turn) : List Ref → Prop
  | [] => True
  | ref :: refs =>
      turn.pool.Agrees (turn.pool.get ref) ∧ (turn.step around ref).1.Agrees around refs

instance Turn.decidableAgrees :
    ∀ (turn : Turn) (refs : List Ref), Decidable (turn.Agrees around refs)
  | _, [] => inferInstanceAs (Decidable True)
  | turn, ref :: refs =>
      have := Turn.decidableAgrees (turn.step around ref).1 refs
      inferInstanceAs (Decidable (turn.pool.Agrees (turn.pool.get ref) ∧
        (turn.step around ref).1.Agrees around refs))

theorem Turn.Matches.effect (h : turn.Matches other) {ref : Ref}
    (agrees : turn.pool.Agrees (turn.pool.get ref)) :
    (other.effect around ref).canonical = (turn.effect around ref).canonical := by
  have nodes := h.pool.nodes ref
  unfold Turn.effect
  rw [← Body.step_canonical, nodes.body, nodes.idNumber, h.pool.inputs nodes agrees, h.generator,
    Body.step_canonical]

/-- A turn of one node takes what matches to what matches, and fails alike. -/
theorem Turn.Matches.step (h : turn.Matches other) {ref : Ref}
    (agrees : turn.pool.Agrees (turn.pool.get ref)) :
    (turn.step around ref).1.Matches (other.step around ref).1 ∧
      (other.step around ref).2 = (turn.step around ref).2 := by
  have effect := h.effect around agrees
  have generator := congrArg Effect.generator effect
  have body := congrArg Effect.body effect
  have outlets := congrArg Effect.outlets effect
  have fault := congrArg Effect.fault effect
  refine ⟨⟨⟨?_, ?_⟩, generator⟩, fault⟩
  · rw [Turn.step_size, Turn.step_size, h.pool.size]
  · intro there
    by_cases same : ref = there
    · subst same
      by_cases inside : ref < turn.pool.nodes.size
      · have nodes := h.pool.nodes ref
        rw [turn.step_get_self around inside,
          other.step_get_self around (h.pool.size ▸ inside)]
        refine ⟨nodes.id, nodes.place, body, nodes.inlets, ?_⟩
        simp only [Effect.canonical] at outlets
        rw [← Option.getD_map (List.map Decimal.canonical), outlets,
          ← Option.getD_map (List.map Decimal.canonical), nodes.outlets]
      · have none (turn : Turn) (outside : ¬ref < turn.pool.nodes.size) :
            (turn.step around ref).1.pool = turn.pool :=
          turn.pool.set_of_le _ (Nat.le_of_not_lt outside)
        rw [none turn inside, none other (h.pool.size ▸ inside)]
        exact h.pool.nodes ref
    · rw [turn.step_get_ne around same, other.step_get_ne around same]
      exact h.pool.nodes there

theorem Turn.Matches.run (h : turn.Matches other) {refs : List Ref}
    (agrees : turn.Agrees around refs) :
    (turn.run around refs).1.Matches (other.run around refs).1 ∧
      (other.run around refs).2 = (turn.run around refs).2 := by
  induction refs generalizing turn other with
  | nil => exact ⟨h, rfl⟩
  | cons ref refs ih =>
      obtain ⟨here, later⟩ := agrees
      obtain ⟨next, fault⟩ := h.step around here
      simp only [Turn.run]
      cases stepped : turn.step around ref with
      | mk after failed =>
          cases stepped' : other.step around ref with
          | mk after' failed' =>
              rw [stepped] at next fault later
              rw [stepped'] at next fault
              obtain rfl : failed' = failed := fault
              cases failed' with
              | none => exact ih next later
              | some fault => exact ⟨next, rfl⟩

end Turns

section Ticks

/-- Two circuits with one graph over pools that match. -/
structure Circuit.Matches (c other : Circuit) : Prop where
  pool : c.pool.Matches other.pool
  graph : other.graph = c.graph

/-- Whether all sources of an inlet hold a number, or none does, whenever the inlet is read in some
ticks. -/
def Circuit.Agrees (c : Circuit) : List (Float × Controls) → Prop
  | [] => True
  | (dt, controls) :: history =>
      c.start.Agrees { dt, controls } c.graph.nodes ∧ (c.tick dt controls).1.Agrees history

instance Circuit.decidableAgrees :
    ∀ (c : Circuit) (history : List (Float × Controls)), Decidable (c.Agrees history)
  | _, [] => inferInstanceAs (Decidable True)
  | c, (dt, controls) :: history =>
      have := Circuit.decidableAgrees (c.tick dt controls).1 history
      inferInstanceAs (Decidable (c.start.Agrees { dt, controls } c.graph.nodes ∧
        (c.tick dt controls).1.Agrees history))

variable {c other : Circuit}

theorem Circuit.Matches.tick (h : c.Matches other) {dt : Float} {controls : Controls}
    (agrees : c.start.Agrees { dt, controls } c.graph.nodes) :
    (c.tick dt controls).1.Matches (other.tick dt controls).1 ∧
      (other.tick dt controls).2 = (c.tick dt controls).2 := by
  have start : c.start.Matches other.start := ⟨h.pool, congrArg Graph.generator h.graph⟩
  obtain ⟨next, fault⟩ := start.run { dt, controls } agrees
  rw [c.tick_eq_run, other.tick_eq_run, Circuit.count, Circuit.count, h.graph]
  refine ⟨⟨next.pool, ?_⟩, fault⟩
  simp only [next.generator]

/-- Ticks take matching circuits to matching ones, and complete alike. -/
theorem Circuit.Matches.ticks (h : c.Matches other) {history : List (Float × Controls)}
    (agrees : c.Agrees history) :
    (c.ticks history).Matches (other.ticks history) ∧
      (other.Completes history ↔ c.Completes history) := by
  induction history generalizing c other with
  | nil => exact ⟨h, Iff.rfl⟩
  | cons tick history ih =>
      obtain ⟨here, later⟩ := agrees
      obtain ⟨next, fault⟩ := h.tick here
      obtain ⟨last, completes⟩ := ih next later
      refine ⟨last, ?_⟩
      simp only [Circuit.Completes]
      rw [completes, fault]

theorem Circuit.Agrees.of_prefix {front history : List (Float × Controls)}
    (agrees : c.Agrees history) (h : front <+: history) : c.Agrees front := by
  induction front generalizing c history with
  | nil => trivial
  | cons tick front ih =>
      obtain ⟨back, rfl⟩ := h
      exact ⟨agrees.1, ih agrees.2 (List.prefix_append front back)⟩

theorem Circuit.Sound.ticks (h : c.Sound) (history : List (Float × Controls)) :
    (c.ticks history).Sound := by
  induction history generalizing c with
  | nil => exact h
  | cons tick history ih => exact ih (h.tick tick.1 tick.2)

end Ticks

section Statuses

def SinkState.canonical : SinkState → SinkState
  | .beep b => .beep b.canonical
  | .color red green blue =>
      .color (Decimal.canonical red) (Decimal.canonical green) (Decimal.canonical blue)
  | .screen lit => .screen lit

/-- A status in canonical doubles. -/
def Status.canonical (status : Status) : Status :=
  { status with
    signals := status.signals.map fun entry => (entry.1, entry.2.map Decimal.canonical)
    sinks := status.sinks.map fun entry => (entry.1, entry.2.canonical) }

theorem Body.sinkState?_canonical (body : Body) :
    body.canonical.sinkState? = body.sinkState?.map SinkState.canonical := by
  cases body with
  | screen screen =>
      simp only [Body.canonical, Body.sinkState?, Option.map_some, SinkState.canonical,
        Screen.litCount_canonical]
  | _ => rfl

/-- What a status shows of a node, in canonical doubles. -/
def Node.shown (node : Node) : Int × List Float :=
  (node.idNumber, node.outlets.map Decimal.canonical)

def Node.shownSink? (node : Node) : Option (Int × SinkState) :=
  node.body.canonical.sinkState?.map fun state => (node.idNumber, state)

variable {c other : Circuit}

theorem Circuit.Sound.status_canonical (h : c.Sound) : c.status.canonical =
    { tick := c.graph.tickCount
      signals := c.nodes.map Node.shown
      sinks := c.nodes.filterMap Node.shownSink? } := by
  have sink (node : Node) : node.shownSink? = (node.body.sinkState?.map fun state =>
      (node.idNumber, state)).map fun entry => (entry.1, entry.2.canonical) := by
    rw [Node.shownSink?, Body.sinkState?_canonical, Option.map_map, Option.map_map]
    rfl
  unfold Status.canonical Circuit.status
  simp only [h.signals_eq, h.sinks_eq, List.map_map, List.map_filterMap, ← sink]
  rfl

/-- Circuits that match show numerically equal numbers and sinks. -/
theorem Circuit.Matches.status (h : c.Matches other) (sound : c.Sound) (sound' : other.Sound) :
    other.status.canonical = c.status.canonical := by
  have nodes (ref : Ref) : (c.node ref).Matches (other.node ref) := h.pool.nodes ref
  have signal (ref : Ref) : (other.node ref).shown = (c.node ref).shown := by
    rw [Node.shown, Node.shown, (nodes ref).idNumber, (nodes ref).outlets]
  have sink (ref : Ref) : (other.node ref).shownSink? = (c.node ref).shownSink? := by
    rw [Node.shownSink?, Node.shownSink?, (nodes ref).idNumber, (nodes ref).body]
  rw [sound.status_canonical, sound'.status_canonical, Circuit.nodes, Circuit.nodes, h.graph]
  simp only [List.map_map, List.filterMap_map, Function.comp_def, signal, sink]

end Statuses

end SignalGraph
