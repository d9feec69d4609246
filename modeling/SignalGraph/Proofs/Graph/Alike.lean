import SignalGraph.Proofs.Graph.Compiled
import SignalGraph.Proofs.Graph.Layout
import SignalGraph.Session.Status

/-!
Circuits with one layout in ticks. A tick reads nothing of a circuit but its layout, except for
random numbers. So circuits with the same layout and without random nodes have the same signals and
the same sinks after any ticks, and their ticks fail alike.
-/

namespace SignalGraph

section Views

/-- The nodes at some references, with wires that name nodes by their positions among them. -/
def Pool.view (pool : Pool) (nodes : List Ref) : List Node :=
  nodes.map fun ref => (pool.get ref).place nodes

/-- Listed nodes that read from each other only. -/
structure Pool.Tidy (pool : Pool) (nodes : List Ref) : Prop where
  nodup : nodes.Nodup
  inside : ∀ ref ∈ nodes, ref < pool.nodes.size
  listed : ∀ ref ∈ nodes, ∀ sources ∈ (pool.get ref).inlets, ∀ outlet ∈ sources,
    outlet.ref ∈ nodes

variable {pool : Pool} {nodes : List Ref}

theorem Circuit.layout_eq_view (c : Circuit) : c.layout = c.pool.view c.graph.nodes := by
  rw [Circuit.layout, Circuit.nodes, List.map_map]
  rfl

theorem Circuit.Sound.tidy {c : Circuit} (h : c.Sound) : c.pool.Tidy c.graph.nodes :=
  ⟨h.nodes_nodup, fun _ => h.lt_of_mem, fun ref listed sources given outlet from_here =>
    ((h.wired ref listed).sources sources given outlet from_here).1⟩

theorem Pool.view_getElem? (pool : Pool) (nodes : List Ref) (i : Nat) :
    (pool.view nodes)[i]? = nodes[i]?.map fun ref => (pool.get ref).place nodes := List.getElem?_map

/-- What a node of a view sees. -/
def viewInputs (view : List Node) (node : Node) : Inputs :=
  node.inlets.map fun sources => highest? (sources.map fun outlet =>
    ((view[outlet.ref]?.map Node.outlets).getD []).getD outlet.slot 0.0)

/-- A node sees what its place in the view sees. -/
theorem Pool.Tidy.inputs (h : pool.Tidy nodes) {ref : Ref} (mem : ref ∈ nodes) :
    pool.inputs (pool.get ref) = viewInputs (pool.view nodes) ((pool.get ref).place nodes) := by
  simp only [Pool.inputs, viewInputs, Node.place, List.map_map]
  refine List.map_congr_left fun sources given => ?_
  simp only [Function.comp_apply, List.map_map]
  refine congrArg highest? (List.map_congr_left fun outlet from_here => ?_)
  have source := h.listed ref mem sources given outlet from_here
  simp only [Function.comp_apply, Pool.view_getElem?, List.getElem?_idxOf source, Option.map_some,
    Option.getD_some, Pool.signal]
  rfl

/-- A node that is set anew changes one place of the view. -/
theorem Pool.Tidy.view_set (h : pool.Tidy nodes) {i : Nat} {ref : Ref}
    (found : nodes[i]? = some ref) (node : Node) :
    (pool.set ref node).view nodes = (pool.view nodes).set i (node.place nodes) := by
  have inside := h.inside ref (List.mem_of_getElem? found)
  obtain ⟨bound, there⟩ := List.getElem?_eq_some_iff.mp found
  refine List.ext_getElem? fun k => ?_
  rw [Pool.view_getElem?, List.getElem?_set]
  split
  · rename_i same
    subst same
    rw [found, Option.map_some, pool.get_set_self ref node inside, if_pos]
    exact lt_of_lt_of_eq bound (List.length_map _).symm
  · rename_i other
    rw [Pool.view_getElem?]
    cases at_k : nodes[k]? with
    | none => rfl
    | some next =>
        obtain ⟨bound', there'⟩ := List.getElem?_eq_some_iff.mp at_k
        have differs : ref ≠ next := by
          rintro rfl
          exact other ((h.nodup.getElem_inj_iff).mp (there.trans there'.symm))
        rw [Option.map_some, Option.map_some, pool.get_set_ne node differs]

end Views

section Turns

/-- Two pools whose listed nodes look the same, none of them random. -/
structure Pool.Alike (pool : Pool) (nodes : List Ref) (pool' : Pool) (nodes' : List Ref) :
    Prop where
  view : pool.view nodes = pool'.view nodes'
  first : pool.Tidy nodes
  second : pool'.Tidy nodes'
  calm : ∀ node ∈ pool.view nodes, node.kind ≠ .random

variable (around : Surroundings) {nodes nodes' : List Ref}

theorem Turn.step_tidy {turn : Turn} (h : turn.pool.Tidy nodes) (ref : Ref) :
    (turn.step around ref).1.pool.Tidy nodes := by
  refine ⟨h.nodup, fun other mem => ?_, fun other mem => ?_⟩
  · rw [turn.step_size]
    exact h.inside other mem
  · rw [(turn.step_keeps around ref other).inlets]
    exact h.listed other mem

/-- Only a random body looks at the generator. -/
theorem Body.step_generator {body : Body} (calm : body.kind ≠ .random) (id : Int) (inputs : Inputs)
    (generator other : Random.Generator) :
    let effect := body.step around id inputs generator
    let effect' := body.step around id inputs other
    effect.body = effect'.body ∧ effect.outlets = effect'.outlets ∧
      effect.fault = effect'.fault := by
  cases body with
  | random => exact absurd rfl calm
  | key v => cases v <;> exact ⟨rfl, rfl, rfl⟩
  | _ => exact ⟨rfl, rfl, rfl⟩

/-- A turn changes the place that the node has in the view. -/
theorem Turn.step_view {turn : Turn} (h : turn.pool.Tidy nodes) {i : Nat} {ref : Ref}
    (found : nodes[i]? = some ref) :
    (turn.step around ref).1.pool.view nodes = (turn.pool.view nodes).set i
      { (turn.pool.get ref).place nodes with
        body := (turn.effect around ref).body
        outlets := (turn.effect around ref).outlets.getD (turn.pool.get ref).outlets } :=
  h.view_set found _

variable {turn turn' : Turn} {i : Nat} {ref ref' : Ref}

theorem Pool.Alike.place (h : turn.pool.Alike nodes turn'.pool nodes')
    (found : nodes[i]? = some ref) (found' : nodes'[i]? = some ref') :
    (turn.pool.get ref).place nodes = (turn'.pool.get ref').place nodes' := by
  have at_i := congrArg (·[i]?) h.view
  simp only [Pool.view_getElem?, found, found', Option.map_some] at at_i
  exact Option.some.inj at_i

/-- Two nodes at one position of a view do the same. -/
theorem Pool.Alike.effect (h : turn.pool.Alike nodes turn'.pool nodes')
    (found : nodes[i]? = some ref) (found' : nodes'[i]? = some ref') :
    let effect := turn.effect around ref
    let effect' := turn'.effect around ref'
    effect.body = effect'.body ∧ effect.outlets = effect'.outlets ∧
      effect.fault = effect'.fault := by
  have same := h.place found found'
  have body : (turn.pool.get ref).body = (turn'.pool.get ref').body :=
    (congrArg Node.body same :)
  have id : (turn.pool.get ref).idNumber = (turn'.pool.get ref').idNumber :=
    (congrArg Node.idNumber same :)
  have inputs : turn.pool.inputs (turn.pool.get ref) = turn'.pool.inputs (turn'.pool.get ref') := by
    rw [h.first.inputs (List.mem_of_getElem? found), h.second.inputs (List.mem_of_getElem? found'),
      h.view, same]
  have calm : (turn.pool.get ref).body.kind ≠ .random :=
    h.calm ((turn.pool.get ref).place nodes)
      (List.mem_map.mpr ⟨ref, List.mem_of_getElem? found, rfl⟩)
  simp only [Turn.effect, ← body, ← id, ← inputs]
  exact Body.step_generator around calm _ _ _ _

theorem Pool.Alike.step (h : turn.pool.Alike nodes turn'.pool nodes')
    (found : nodes[i]? = some ref) (found' : nodes'[i]? = some ref') :
    let next := turn.step around ref
    let next' := turn'.step around ref'
    next.1.pool.Alike nodes next'.1.pool nodes' ∧ next.2 = next'.2 := by
  -- Both turns set the same place of one view to the same node.
  obtain ⟨bodies, outlets, faults⟩ := h.effect around found found'
  have same := h.place found found'
  have signals : (turn.pool.get ref).outlets = (turn'.pool.get ref').outlets :=
    (congrArg Node.outlets same :)
  constructor
  · constructor
    · rw [Turn.step_view around h.first found, Turn.step_view around h.second found', h.view, same,
        bodies, outlets, signals]
    · exact turn.step_tidy around h.first ref
    · exact turn'.step_tidy around h.second ref'
    · intro node there
      obtain ⟨other, listed, rfl⟩ := List.mem_map.mp there
      have kept := (turn.step_keeps around ref other).body.kind
      have calm := h.calm _ (List.mem_map.mpr ⟨other, listed, rfl⟩)
      exact fun random => calm (kept.symm.trans random)
  · rw [turn.step_fault, turn'.step_fault]
    exact faults

/-- The turns of nodes at the same positions, up to the first that fails. -/
theorem Pool.Alike.run {refs refs' : List Ref}
    (paired : List.Forall₂ (fun ref ref' => ∃ i : Nat, nodes[i]? = some ref ∧
      nodes'[i]? = some ref') refs refs') (turn turn' : Turn)
    (h : turn.pool.Alike nodes turn'.pool nodes') :
    let next := turn.run around refs
    let next' := turn'.run around refs'
    next.1.pool.Alike nodes next'.1.pool nodes' ∧ next.2 = next'.2 := by
  -- By induction on the turns that are left; `Alike` holds before each of them.
  induction paired generalizing turn turn' with
  | nil => exact ⟨h, rfl⟩
  | cons first _ ih =>
      obtain ⟨i, found, found'⟩ := first
      have stepped := h.step around found found'
      simp only [Turn.run]
      cases hstep : turn.step around _ with
      | mk next fault =>
          cases hstep' : turn'.step around _ with
          | mk next' fault' =>
              rw [hstep, hstep'] at stepped
              obtain ⟨alike, rfl⟩ := stepped
              cases fault with
              | none => exact ih next next' alike
              | some fault => exact ⟨alike, rfl⟩

end Turns

section Ticks

variable {c d : Circuit}

/-- Two sound circuits with one layout, and no random node. -/
structure Circuit.Alike (c d : Circuit) : Prop where
  layout : c.layout = d.layout
  first : c.Sound
  second : d.Sound
  calm : ∀ node ∈ c.layout, node.kind ≠ .random

theorem Circuit.Alike.tick (h : c.Alike d) (dt : Float) (controls : Controls) :
    (c.tick dt controls).1.Alike (d.tick dt controls).1 ∧
      (c.tick dt controls).2 = (d.tick dt controls).2 := by
  have pools : c.pool.Alike c.graph.nodes d.pool d.graph.nodes :=
    ⟨by rw [← c.layout_eq_view, h.layout, d.layout_eq_view], h.first.tidy, h.second.tidy,
      by rw [← c.layout_eq_view]; exact h.calm⟩
  have length : c.graph.nodes.length = d.graph.nodes.length := by
    rw [← c.layout_length, h.layout, d.layout_length]
  have paired : List.Forall₂ (fun ref ref' => ∃ i : Nat, c.graph.nodes[i]? = some ref ∧
      d.graph.nodes[i]? = some ref') c.graph.nodes d.graph.nodes :=
    List.forall₂_iff_get.mpr ⟨length, fun i bound bound' =>
      ⟨i, List.getElem?_eq_getElem bound, List.getElem?_eq_getElem bound'⟩⟩
  obtain ⟨alike, fault⟩ := Pool.Alike.run { dt, controls } paired
    { pool := c.pool, generator := c.graph.generator }
    { pool := d.pool, generator := d.graph.generator } pools
  refine ⟨⟨?_, h.first.tick dt controls, h.second.tick dt controls, ?_⟩, fault⟩
  · rw [Circuit.layout_eq_view, Circuit.layout_eq_view]
    exact alike.view
  · rw [Circuit.layout_eq_view]
    exact alike.calm

theorem Circuit.Alike.ticks (h : c.Alike d) (history : List (Float × Controls)) :
    (c.ticks history).Alike (d.ticks history) := by
  induction history generalizing c d with
  | nil => exact h
  | cons tick history ih => exact ih (h.tick tick.1 tick.2).1

theorem Circuit.signals_eq (c : Circuit) :
    c.signals = c.layout.foldl (fun signals node =>
      putEntry node.idNumber node.outlets signals) [] := by
  rw [Circuit.layout, List.foldl_map]
  rfl

theorem Circuit.sinks_eq (c : Circuit) :
    c.sinks = c.layout.foldl (fun sinks node =>
      match node.body.sinkState? with
      | some state => putEntry node.idNumber state sinks
      | none => sinks) [] := by
  rw [Circuit.layout, List.foldl_map]
  rfl

/-- Circuits that no ticks tell apart: each tick fails in both or in none, and leaves the same
signals and the same sinks. -/
def Circuit.TicksLike (c d : Circuit) : Prop :=
  ∀ (history : List (Float × Controls)) (dt : Float) (controls : Controls),
    let next := (c.ticks history).tick dt controls
    let next' := (d.ticks history).tick dt controls
    next.2 = next'.2 ∧ next.1.signals = next'.1.signals ∧ next.1.sinks = next'.1.sinks

theorem Circuit.Alike.ticksLike (h : c.Alike d) : c.TicksLike d := by
  intro history dt controls
  obtain ⟨alike, fault⟩ := (h.ticks history).tick dt controls
  exact ⟨fault, by rw [Circuit.signals_eq, alike.layout, Circuit.signals_eq],
    by rw [Circuit.sinks_eq, alike.layout, Circuit.sinks_eq]⟩

end Ticks

end SignalGraph
