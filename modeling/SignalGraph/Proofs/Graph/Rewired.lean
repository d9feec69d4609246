import SignalGraph.Proofs.Graph.Matching
import SignalGraph.Proofs.Graph.Reentry

/-!
The order of connections. Two graphs for which the same nodes have been entered, in the same order,
and the same connections made, in any order, match: they differ in the order of the sources at their
inlets only.
-/

namespace SignalGraph

section Builds

/-- The bodies of the nodes that some calls make. -/
def madeBodies (calls : List GraphCall) : List Body :=
  calls.filterMap fun
    | .make body => some body
    | _ => none

/-- The nodes that some calls enter, with their places. -/
def enteredNodes (calls : List GraphCall) : List (Ref × Value × Value) :=
  calls.filterMap fun
    | .spawn ref x y => some (ref, x, y)
    | _ => none

/-- Calls that make nodes, enter them or connect them. -/
def GraphCall.isBuild : GraphCall → Bool
  | .make _ => true
  | .spawn .. => true
  | .connect .. => true
  | _ => false

/-- Some calls only make, enter and connect nodes, and none of them is refused. -/
def Circuit.Builds (c : Circuit) (calls : List GraphCall) : Prop :=
  c.Along (fun c call => call.isBuild ∧ c.pool.Has call ∧ (c.call call).2 = none) calls

instance (c : Circuit) (calls : List GraphCall) : Decidable (c.Builds calls) :=
  Circuit.decidableAlong _ c calls

/-- The same nodes made and entered in the same order, and the same connections in any order. -/
structure SameWiring (calls others : List GraphCall) : Prop where
  made : madeBodies others = madeBodies calls
  entered : enteredNodes others = enteredNodes calls
  connected : ∀ source outletSlot target inletSlot,
    .connect source outletSlot target inletSlot ∈ calls ↔
      .connect source outletSlot target inletSlot ∈ others

variable {c : Circuit}

/-- A node that is entered at once was no member, and takes the next id. -/
theorem Circuit.call_spawn {ref : Ref} {x y : Value}
    (accepted : (c.call (.spawn ref x y)).2 = none) :
    ¬c.contains ref ∧ ∃ column row, x.toInt = .ok column ∧ y.toInt = .ok row ∧
      (c.call (.spawn ref x y)).1 = c.enter ref column row := by
  simp only [Circuit.call, Option.map_eq_none_iff] at accepted ⊢
  unfold Circuit.spawn at accepted ⊢
  by_cases member : c.contains ref
  · rw [if_pos member] at accepted
    cases accepted
  · rw [if_neg member] at accepted ⊢
    refine ⟨member, ?_⟩
    cases hx : x.toInt with
    | error fault =>
        simp only [hx] at accepted
        cases accepted
    | ok column =>
        cases hy : y.toInt with
        | error fault =>
            simp only [hx, hy] at accepted
            cases accepted
        | ok row => exact ⟨column, row, rfl, rfl, rfl⟩

theorem Circuit.call_connect {source target : Ref} {outletSlot inletSlot : Int}
    (accepted : (c.call (.connect source outletSlot target inletSlot)).2 = none) :
    ∃ added, c.connect source outletSlot target inletSlot =
      .ok ((c.call (.connect source outletSlot target inletSlot)).1, added) := by
  simp only [Circuit.call] at accepted ⊢
  cases made : c.connect source outletSlot target inletSlot with
  | error fault =>
      rw [made] at accepted
      cases accepted
  | ok next => exact ⟨next.2, rfl⟩

theorem mem_addOutlet {outlet other : Outlet} {sources : List Outlet} :
    other ∈ addOutlet outlet sources ↔ other ∈ sources ∨ other = outlet := by
  unfold addOutlet
  split
  · rename_i old
    constructor
    · exact Or.inl
    · rintro (mem | rfl)
      · exact mem
      · exact old
  · rw [List.mem_append, List.mem_singleton]

/-- A circuit has nodes with some bodies, and some of them have been entered, in this order. -/
structure Circuit.HasNodes (c : Circuit) (bodies : List Body)
    (entries : List (Ref × Value × Value)) : Prop where
  size : c.pool.nodes.size = bodies.length
  nodes : c.graph.nodes = entries.map Prod.fst
  nextId : c.graph.nextId = entries.length
  made : ∀ ref body, bodies[ref]? = some body →
    (c.node ref).body = body ∧ (c.node ref).outlets = (Node.ofBody body).outlets
  entered : ∀ id ref x y, entries[id]? = some (ref, x, y) →
    (c.node ref).id = some id ∧ x.toInt = .ok (c.node ref).x ∧ y.toInt = .ok (c.node ref).y
  stranger : ∀ ref ∉ c.graph.nodes, (c.node ref).id = none ∧ (c.node ref).x = 0 ∧
    (c.node ref).y = 0

/-- The sources of all inlets are those that some calls connect, and only listed nodes have any. -/
structure Circuit.HasWires (c : Circuit) (calls : List GraphCall) : Prop where
  sources : ∀ ref (slot : Nat) outlet, outlet ∈ (c.node ref).inlets.getD slot [] ↔
    .connect outlet.ref outlet.slot ref slot ∈ calls
  connected : ∀ source outletSlot target inletSlot,
    .connect source outletSlot target inletSlot ∈ calls → target ∈ c.graph.nodes

variable {bodies : List Body} {entries : List (Ref × Value × Value)}

theorem Circuit.HasNodes.listed (h : c.HasNodes bodies entries) {id : Nat} {ref : Ref} {x y : Value}
    (found : entries[id]? = some (ref, x, y)) : ref ∈ c.graph.nodes := by
  rw [h.nodes]
  exact List.mem_map_of_mem (List.mem_of_getElem? found)

/-- Where no node is made yet, a circuit that makes one has a new node or none. -/
theorem Circuit.make_outside (body : Body) {ref : Ref} (outside : ¬ref < c.pool.nodes.size) :
    c.node ref = default ∧
      ((c.make body).node ref = .ofBody body ∨ (c.make body).node ref = default) := by
  refine ⟨Pool.get_of_le _ (Nat.le_of_not_lt outside), ?_⟩
  rcases Nat.eq_or_lt_of_not_lt outside with rfl | beyond
  · exact .inl (c.make_self body)
  · exact .inr (Pool.get_of_le _ (c.make_size body ▸ beyond))

theorem Circuit.HasNodes.make (h : c.HasNodes bodies entries) (sound : c.Sound) (body : Body) :
    (c.make body).HasNodes (bodies ++ [body]) entries := by
  refine ⟨?_, h.nodes, h.nextId, ?_, ?_, ?_⟩
  · rw [c.make_size, h.size, List.length_append, List.length_singleton]
  · intro ref made found
    rcases getElem?_concat_eq_some.mp found with early | ⟨rfl, rfl⟩
    · have inside := (List.getElem?_eq_some_iff.mp early).1
      rw [c.make_other body (h.size ▸ inside)]
      exact h.made ref made early
    · rw [← h.size, c.make_self]
      exact ⟨rfl, rfl⟩
  · intro id ref x y found
    rw [c.make_other body (sound.lt_of_mem (h.listed found))]
    exact h.entered id ref x y found
  · intro ref unlisted
    by_cases inside : ref < c.pool.nodes.size
    · rw [c.make_other body inside]
      exact h.stranger ref unlisted
    · rcases (c.make_outside body inside).2 with new | none
      · rw [new]
        exact ⟨rfl, rfl, rfl⟩
      · rw [none]
        exact ⟨rfl, rfl, rfl⟩

/-- A node that is entered changes its id and its place. -/
theorem Circuit.enter_frame {ref : Ref} (inside : ref < c.pool.nodes.size) (column row : Int)
    (other : Ref) : (c.enter ref column row).node other =
      { c.node other with
        id := ((c.enter ref column row).node other).id
        x := ((c.enter ref column row).node other).x
        y := ((c.enter ref column row).node other).y } := by
  by_cases same : ref = other
  · subst same
    rw [c.enter_self inside]
  · rw [c.enter_other same]

theorem Circuit.HasNodes.enter (h : c.HasNodes bodies entries) {ref : Ref}
    (inside : ref < c.pool.nodes.size) (unlisted : ref ∉ c.graph.nodes) {x y : Value}
    {column row : Int} (hx : x.toInt = .ok column) (hy : y.toInt = .ok row) :
    (c.enter ref column row).HasNodes bodies (entries ++ [(ref, x, y)]) := by
  refine ⟨?_, ?_, ?_, ?_, ?_, ?_⟩
  · rw [← h.size]
    simp only [Circuit.enter, Circuit.append, Circuit.claim, Pool.size_modify]
  · rw [List.map_append, ← h.nodes]
    rfl
  · rw [List.length_append, ← h.nextId]
    rfl
  · intro other body found
    rw [c.enter_frame inside]
    exact h.made other body found
  · intro id other x' y' found
    rcases getElem?_concat_eq_some.mp found with early | ⟨rfl, last⟩
    · have differs : ref ≠ other := by
        rintro rfl
        exact unlisted (h.listed early)
      rw [c.enter_other differs]
      exact h.entered id other x' y' early
    · obtain ⟨rfl, rfl, rfl⟩ : ref = other ∧ x = x' ∧ y = y' := by
        simpa only [Prod.mk.injEq] using last
      rw [c.enter_self inside, ← h.nextId]
      exact ⟨rfl, hx, hy⟩
  · intro other stranger
    have apart : other ∉ c.graph.nodes ++ [ref] := stranger
    rw [List.mem_append, List.mem_singleton, not_or] at apart
    rw [c.enter_other (Ne.symm apart.2)]
    exact h.stranger other apart.1

theorem Circuit.HasNodes.connect (h : c.HasNodes bodies entries) {next : Circuit}
    (graph : next.graph = c.graph) (size : next.pool.nodes.size = c.pool.nodes.size)
    (frame : ∀ ref, next.node ref = { c.node ref with inlets := (next.node ref).inlets }) :
    next.HasNodes bodies entries := by
  refine ⟨size.trans h.size, graph ▸ h.nodes, graph ▸ h.nextId, ?_, ?_, ?_⟩
  · intro ref body found
    rw [frame ref]
    exact h.made ref body found
  · intro id ref x y found
    rw [frame ref]
    exact h.entered id ref x y found
  · intro ref unlisted
    rw [graph] at unlisted
    rw [frame ref]
    exact h.stranger ref unlisted

theorem Node.ofBody_sources (body : Body) (slot : Nat) :
    (Node.ofBody body).inlets.getD slot [] = [] := by
  simp only [Node.ofBody, List.getD_eq_getElem?_getD, List.getElem?_map]
  cases body.inlets[slot]? <;> rfl

variable {seed : Nat} {calls : List GraphCall}

/-- Other calls than connections change no sources. -/
theorem Circuit.HasWires.keep (h : c.HasWires calls) {next : Circuit} {call : GraphCall}
    (other : ∀ source outletSlot target inletSlot,
      call ≠ .connect source outletSlot target inletSlot)
    (nodes : ∀ ref ∈ c.graph.nodes, ref ∈ next.graph.nodes)
    (inlets : ∀ ref slot,
      (next.node ref).inlets.getD slot [] = (c.node ref).inlets.getD slot []) :
    next.HasWires (calls ++ [call]) := by
  have connects : ∀ source outletSlot target inletSlot,
      .connect source outletSlot target inletSlot ∈ calls ++ [call] ↔
        .connect source outletSlot target inletSlot ∈ calls := by
    intro source outletSlot target inletSlot
    rw [List.mem_append, List.mem_singleton]
    exact or_iff_left (other source outletSlot target inletSlot).symm
  constructor
  · intro ref slot outlet
    rw [connects, inlets]
    exact h.sources ref slot outlet
  · intro source outletSlot target inletSlot mem
    rw [connects] at mem
    exact nodes target (h.connected _ _ _ _ mem)

theorem Circuit.HasWires.make (h : c.HasWires calls) (body : Body) :
    (c.make body).HasWires (calls ++ [.make body]) := by
  refine h.keep (fun _ _ _ _ => nofun) (fun _ mem => mem) fun ref slot => ?_
  by_cases inside : ref < c.pool.nodes.size
  · rw [c.make_other body inside]
  · obtain ⟨before, new | none⟩ := c.make_outside body inside
    · rw [before, new, Node.ofBody_sources]
      rfl
    · rw [before, none]

theorem Circuit.HasWires.enter (h : c.HasWires calls) {ref : Ref}
    (inside : ref < c.pool.nodes.size) (column row : Int) (x y : Value) :
    (c.enter ref column row).HasWires (calls ++ [.spawn ref x y]) := by
  refine h.keep (fun _ _ _ _ => nofun) (fun _ => List.mem_append_left _) fun other slot => ?_
  rw [c.enter_frame inside]

/-- One more wire is one more source of one inlet. -/
theorem Circuit.HasWires.wire (h : c.HasWires calls) {source target : Ref} {outlet inlet : Nat}
    (inside : target < c.pool.nodes.size) (listed : target ∈ c.graph.nodes)
    (bound : inlet < (c.node target).inlets.length) :
    (c.wire source target outlet inlet).1.HasWires
      (calls ++ [.connect source outlet target inlet]) := by
  constructor
  · intro ref slot other
    have last : GraphCall.connect other.ref other.slot ref slot =
        .connect source outlet target inlet ↔
          ref = target ∧ slot = inlet ∧ other = ⟨source, outlet⟩ := by
      obtain ⟨node, number⟩ := other
      simp only [GraphCall.connect.injEq, Outlet.mk.injEq, Int.natCast_inj]
      tauto
    rw [c.wire_node source outlet inlet inside ref, List.mem_append, List.mem_singleton, last,
      ← h.sources]
    by_cases target_is : ref = target
    · subst target_is
      rw [if_pos rfl]
      by_cases slot_is : slot = inlet
      · subst slot_is
        rw [List.getD_eq_getElem?_getD, List.getElem?_set_self bound, Option.getD_some,
          mem_addOutlet]
        simp only [true_and]
      · rw [List.getD_eq_getElem?_getD, List.getElem?_set_ne (Ne.symm slot_is),
          ← List.getD_eq_getElem?_getD]
        simp only [slot_is, false_and, and_false, or_false]
    · rw [if_neg target_is]
      simp only [target_is, false_and, or_false]
  · intro source' outletSlot target' inletSlot mem
    rw [c.wire_graph]
    rcases List.mem_append.mp mem with old | last
    · exact h.connected _ _ _ _ old
    · obtain ⟨-, -, rfl, -⟩ := GraphCall.connect.inj (List.mem_singleton.mp last)
      exact listed

/-- A node that no graph lists reads from nothing. -/
theorem Circuit.HasWires.free (h : c.HasWires calls) {ref : Ref} (unlisted : ref ∉ c.graph.nodes) :
    ∀ sources ∈ (c.node ref).inlets, sources = [] := by
  intro sources mem
  obtain ⟨slot, found⟩ := List.getElem?_of_mem mem
  have given : (c.node ref).inlets.getD slot [] = sources := by
    rw [List.getD_eq_getElem?_getD, found, Option.getD_some]
  rw [List.eq_nil_iff_forall_not_mem]
  intro outlet from_here
  rw [← given, h.sources] at from_here
  exact unlisted (h.connected _ _ _ _ from_here)

/-- What some calls have built: everything but the order of the sources at an inlet is said by the
nodes that the calls make and enter and the connections that they make. -/
structure Circuit.IsBuilt (c : Circuit) (seed : Nat) (calls : List GraphCall) : Prop where
  orderly : c.Orderly
  unticked : c.graph.tickCount = 0 ∧ c.graph.generator = .ofSeed seed
  nodes : c.HasNodes (madeBodies calls) (enteredNodes calls)
  wires : c.HasWires calls

theorem Circuit.isBuilt_nil : (Circuit.ofSeed seed).IsBuilt seed [] := by
  have none (ref : Ref) : (Circuit.ofSeed seed).node ref = default :=
    Pool.get_of_le _ (Nat.zero_le ref)
  refine ⟨⟨Circuit.sound_of_empty rfl rfl, ?_⟩, ⟨rfl, rfl⟩, ⟨rfl, rfl, rfl, ?_, ?_, ?_⟩, ⟨?_, ?_⟩⟩
  · exact fun ref inside => absurd inside (Nat.not_lt_zero ref)
  · exact fun _ _ found => nomatch found
  · exact fun _ _ _ _ found => nomatch found
  · intro ref _
    rw [none]
    exact ⟨rfl, rfl, rfl⟩
  · intro ref slot outlet
    rw [none]
    constructor <;> exact fun mem => nomatch mem
  · exact fun _ _ _ _ mem => nomatch mem

theorem Circuit.IsBuilt.make (h : c.IsBuilt seed calls) (body : Body) :
    (c.make body).IsBuilt seed (calls ++ [.make body]) := by
  refine ⟨h.orderly.make body, h.unticked, ?_, h.wires.make body⟩
  have made := h.nodes.make h.orderly.sound body
  simpa [madeBodies, enteredNodes] using made

theorem Circuit.IsBuilt.enter (h : c.IsBuilt seed calls) {ref : Ref}
    (inside : ref < c.pool.nodes.size) (unlisted : ref ∉ c.graph.nodes) {x y : Value}
    {column row : Int} (hx : x.toInt = .ok column) (hy : y.toInt = .ok row) :
    (c.enter ref column row).IsBuilt seed (calls ++ [.spawn ref x y]) := by
  refine ⟨?_, h.unticked, ?_, h.wires.enter inside column row x y⟩
  · apply h.orderly.enter inside unlisted
    intro sources mem outlet from_here
    rw [h.wires.free unlisted sources mem] at from_here
    cases from_here
  · have entered := h.nodes.enter inside unlisted hx hy
    simpa [madeBodies, enteredNodes] using entered

theorem Circuit.IsBuilt.connect (h : c.IsBuilt seed calls) {next : Circuit} {source target : Ref}
    {outletSlot inletSlot : Int} {added : Bool}
    (made : c.connect source outletSlot target inletSlot = .ok (next, added)) :
    next.IsBuilt seed (calls ++ [.connect source outletSlot target inletSlot]) := by
  obtain ⟨graph, frame⟩ := Circuit.connect_frame made
  have orderly := h.orderly.connect made
  obtain ⟨-, member, outlet, inlet, ⟨rfl, -⟩, ⟨rfl, bound⟩, wired⟩ :=
    Circuit.connect_eq_ok.mp made
  have listed := (h.orderly.sound.contains_iff target).mp member
  obtain rfl : (c.wire source target outlet inlet).1 = next := congrArg Prod.fst wired
  refine ⟨orderly, ?_, ?_, ?_⟩
  · rw [graph]
    exact h.unticked
  · have kept := h.nodes.connect graph (c.wire_size ..) frame
    simpa [madeBodies, enteredNodes] using kept
  · exact h.wires.wire (h.orderly.sound.lt_of_mem listed) listed bound

/-- Every call that is not refused builds on what there is. -/
theorem Circuit.IsBuilt.call (h : c.IsBuilt seed calls) {call : GraphCall} (build : call.isBuild)
    (given : c.pool.Has call) (accepted : (c.call call).2 = none) :
    (c.call call).1.IsBuilt seed (calls ++ [call]) := by
  cases call with
  | make body => exact h.make body
  | spawn ref x y =>
      obtain ⟨stranger, column, row, hx, hy, entered⟩ := c.call_spawn accepted
      rw [h.orderly.sound.contains_iff] at stranger
      rw [entered]
      exact h.enter given stranger hx hy
  | connect source outletSlot target inletSlot =>
      obtain ⟨added, made⟩ := c.call_connect accepted
      exact h.connect made
  | _ => cases build

theorem Circuit.IsBuilt.after (h : c.IsBuilt seed calls) {later : List GraphCall}
    (builds : c.Builds later) : (c.after later).IsBuilt seed (calls ++ later) := by
  induction later generalizing c calls with
  | nil =>
      rw [List.append_nil]
      exact h
  | cons call later ih =>
      obtain ⟨⟨build, given, accepted⟩, rest⟩ := builds
      have next := ih (h.call build given accepted) rest
      rwa [List.append_assoc, List.singleton_append] at next

theorem Circuit.Builds.isBuilt (builds : (Circuit.ofSeed seed).Builds calls) :
    ((Circuit.ofSeed seed).after calls).IsBuilt seed calls :=
  Circuit.isBuilt_nil.after builds

end Builds

section Order

variable {c other : Circuit} {seed : Nat} {calls others : List GraphCall}

/-- The nodes that have been entered, and their places, fix the ids and the places of all nodes. -/
theorem Circuit.HasNodes.place {bodies : List Body} {entries : List (Ref × Value × Value)}
    (h : c.HasNodes bodies entries) (h' : other.HasNodes bodies entries) (ref : Ref) :
    (other.node ref).id = (c.node ref).id ∧ (other.node ref).x = (c.node ref).x ∧
      (other.node ref).y = (c.node ref).y := by
  by_cases listed : ref ∈ entries.map Prod.fst
  · obtain ⟨⟨ref, x, y⟩, entry, rfl⟩ := List.mem_map.mp listed
    obtain ⟨id, found⟩ := List.getElem?_of_mem entry
    obtain ⟨bears, column, row⟩ := h.entered id ref x y found
    obtain ⟨bears', column', row'⟩ := h'.entered id ref x y found
    exact ⟨bears'.trans bears.symm, Except.ok.inj (column'.symm.trans column),
      Except.ok.inj (row'.symm.trans row)⟩
  · obtain ⟨id, x, y⟩ := h.stranger ref (h.nodes ▸ listed)
    obtain ⟨id', x', y'⟩ := h'.stranger ref (h'.nodes ▸ listed)
    exact ⟨id'.trans id.symm, x'.trans x.symm, y'.trans y.symm⟩

theorem Circuit.IsBuilt.nodes_of_same (h' : other.IsBuilt seed others)
    (same : SameWiring calls others) :
    other.HasNodes (madeBodies calls) (enteredNodes calls) := by
  rw [← same.made, ← same.entered]
  exact h'.nodes

theorem Circuit.IsBuilt.node_matches (h : c.IsBuilt seed calls) (h' : other.IsBuilt seed others)
    (same : SameWiring calls others) (ref : Ref) : (c.node ref).Matches (other.node ref) := by
  have nodes' := h'.nodes_of_same same
  have size : other.pool.nodes.size = c.pool.nodes.size := nodes'.size.trans h.nodes.size.symm
  obtain ⟨id, place⟩ := h.nodes.place nodes' ref
  by_cases inside : ref < c.pool.nodes.size
  · obtain ⟨body, made⟩ : ∃ body, (madeBodies calls)[ref]? = some body :=
      ⟨_, List.getElem?_eq_getElem (h.nodes.size ▸ inside)⟩
    obtain ⟨body_is, outlets⟩ := h.nodes.made ref body made
    obtain ⟨body_is', outlets'⟩ := nodes'.made ref body made
    have slots : (c.node ref).inlets.length = (c.node ref).body.inlets.length :=
      (h.orderly.formed ref inside).inlets
    have slots' : (other.node ref).inlets.length = (other.node ref).body.inlets.length :=
      (h'.orderly.formed ref (size ▸ inside)).inlets
    refine ⟨id, place, ?_, ?_, ?_⟩
    · rw [body_is, body_is']
    · rw [List.forall₂_iff_get]
      constructor
      · rw [slots, slots', body_is, body_is']
      · intro slot bound bound' outlet
        have reads := h.wires.sources ref slot outlet
        have reads' := h'.wires.sources ref slot outlet
        rw [List.getD_eq_getElem _ _ bound] at reads
        rw [List.getD_eq_getElem _ _ bound'] at reads'
        exact reads.trans ((same.connected _ _ _ _).trans reads'.symm)
    · rw [outlets, outlets']
  · have none : c.node ref = default := Pool.get_of_le _ (Nat.le_of_not_lt inside)
    have none' : other.node ref = default :=
      Pool.get_of_le _ (Nat.le_of_not_lt (size ▸ inside))
    rw [none, none']
    exact ⟨rfl, ⟨rfl, rfl⟩, rfl, .nil, rfl⟩

/-- Graphs with the same wiring match. -/
theorem Circuit.IsBuilt.matches (h : c.IsBuilt seed calls) (h' : other.IsBuilt seed others)
    (same : SameWiring calls others) : c.Matches other := by
  have nodes' := h'.nodes_of_same same
  have nodes : other.graph.nodes = c.graph.nodes := nodes'.nodes.trans h.nodes.nodes.symm
  have nextId : other.graph.nextId = c.graph.nextId := nodes'.nextId.trans h.nodes.nextId.symm
  have index : other.graph.index = c.graph.index := by
    have named : Function.Injective fun entry : Nat × Ref => (some entry.1, entry.2) := by
      rintro ⟨id, ref⟩ ⟨id', ref'⟩ equal
      simpa only [Prod.mk.injEq, Option.some.injEq] using equal
    apply List.map_injective_iff.mpr named
    rw [h.orderly.sound.index, h'.orderly.sound.index, nodes]
    refine List.map_congr_left fun ref _ => ?_
    rw [(h.node_matches h' same ref).id]
  refine ⟨⟨?_, h.node_matches h' same⟩, ?_⟩
  · exact nodes'.size.trans h.nodes.size.symm
  · obtain ⟨ticks, generator⟩ := h.unticked
    obtain ⟨ticks', generator'⟩ := h'.unticked
    have fields (g : Graph) : g = ⟨g.nodes, g.index, g.nextId, g.tickCount, g.generator⟩ := rfl
    rw [fields other.graph, fields c.graph, nodes, index, nextId, ticks, ticks', generator,
      generator']

/-- Two graphs for which the same nodes were made and entered in the same order and the same
connections made in any order. Where all ticks of a history complete with the first, and no inlet is
read in them while some of its sources hold a number and others hold none, they complete with the
second as well, and after each of them all nodes are in numerically equal states, and all outlets
and sinks show numerically equal numbers. What a node reads at an inlet with sources of both sorts
depends on their order. -/
theorem Circuit.ticks_rewired (seed : Nat) {calls others : List GraphCall}
    (builds : (Circuit.ofSeed seed).Builds calls) (builds' : (Circuit.ofSeed seed).Builds others)
    (same : SameWiring calls others) {history : List (Float × Controls)}
    (completes : ((Circuit.ofSeed seed).after calls).Completes history) :
    let c := (Circuit.ofSeed seed).after calls
    let other := (Circuit.ofSeed seed).after others
    (c.Agrees history → other.Completes history ∧ ∀ front, front <+: history →
      (c.ticks front).Matches (other.ticks front) ∧
        (other.ticks front).status.canonical = (c.ticks front).status.canonical) ∧
      ∀ (pool : Pool) (node : Node), pool.Agrees node ↔ ∀ node', node.Matches node' →
        (pool.inputs node').canonical = (pool.inputs node).canonical := by
  intro c other
  have first : c.IsBuilt seed calls := builds.isBuilt
  have second : other.IsBuilt seed others := builds'.isBuilt
  have start : c.Matches other := first.matches second same
  refine ⟨fun agrees => ⟨?_, ?_⟩, Pool.agrees_iff⟩
  · exact (start.ticks agrees).2.mpr completes
  · intro front before
    have ticked := (start.ticks (agrees.of_prefix before)).1
    refine ⟨ticked, ticked.status ?_ ?_⟩
    · exact first.orderly.sound.ticks front
    · exact second.orderly.sound.ticks front

/-- A sum that reads from itself, a constant and a random node, and a beep that two nodes trigger;
with the connections made the other way round, and some of them before all nodes are entered. -/
theorem Circuit.ticks_rewired_cycle :
    let enter (ref : Ref) : GraphCall := .spawn ref (.int 0) (.int 0)
    let calls : List GraphCall := [.make (.constant 1.0), .make .random, .make (.math .add),
      .make (.beep { sound := .text "Beep" }), enter 0, enter 1, enter 2, enter 3,
      .connect 0 0 2 0, .connect 1 0 2 0, .connect 2 0 2 1, .connect 0 0 2 1, .connect 2 0 3 0,
      .connect 0 0 3 0]
    let others : List GraphCall := [.make (.constant 1.0), enter 0, .make .random, enter 1,
      .make (.math .add), enter 2, .connect 0 0 2 1, .connect 2 0 2 1, .connect 1 0 2 0,
      .connect 0 0 2 0, .make (.beep { sound := .text "Beep" }), enter 3, .connect 0 0 3 0,
      .connect 2 0 3 0]
    let history : List (Float × Controls) := [(0.5, .idle), (0.25, .idle)]
    let c := (Circuit.ofSeed 0).after calls
    let other := (Circuit.ofSeed 0).after others
    (Circuit.ofSeed 0).Builds calls ∧ (Circuit.ofSeed 0).Builds others ∧
      SameWiring calls others ∧ c.Completes history ∧ c.Agrees history ∧
      other.Completes history ∧ ∀ front, front <+: history →
        (c.ticks front).Matches (other.ticks front) ∧
          (other.ticks front).status.canonical = (c.ticks front).status.canonical := by
  intro enter calls others history c other
  have builds : (Circuit.ofSeed 0).Builds calls := by decide +kernel
  have builds' : (Circuit.ofSeed 0).Builds others := by decide +kernel
  have same : SameWiring calls others := by
    refine ⟨rfl, rfl, ?_⟩
    intro source outletSlot target inletSlot
    simp only [calls, others, enter, List.mem_cons, GraphCall.connect.injEq, reduceCtorEq,
      List.not_mem_nil, false_or, or_false]
    exact iff_of_eq (by ac_rfl)
  have run : (c.tick 0.5 .idle).2 = none ∧ ((c.tick 0.5 .idle).1.tick 0.25 .idle).2 = none ∧
      c.Agrees history := by decide +kernel
  obtain ⟨first, second, agrees⟩ := run
  have completes : c.Completes history := ⟨first, second, trivial⟩
  have rewired := Circuit.ticks_rewired 0 builds builds' same completes
  exact ⟨builds, builds', same, completes, agrees, rewired.1 agrees⟩

/-- What is no number and a one at the same inlet, connected in this order and in the other. -/
example :
    let enter (ref : Ref) : GraphCall := .spawn ref (.int 0) (.int 0)
    let nodes : List GraphCall := [.make (.constant Decimal.notANumber), .make (.constant 1.0),
      .make (.math .abs), enter 0, enter 1, enter 2]
    let c := (Circuit.ofSeed 0).after (nodes ++ [.connect 0 0 2 0, .connect 1 0 2 0])
    let other := (Circuit.ofSeed 0).after (nodes ++ [.connect 1 0 2 0, .connect 0 0 2 0])
    ¬c.Agrees [(0.5, .idle)] ∧
      ((c.tick 0.5 .idle).1.node 2).outlets.map Float.isNaN = [true] ∧
      ((other.tick 0.5 .idle).1.node 2).outlets.map Float.isNaN = [false] := by decide +kernel

end Order

end SignalGraph
