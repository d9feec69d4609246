import SignalGraph.Proofs.Graph.Wiring
import SignalGraph.Proofs.Lists

/-!
One sweep of turns. In a tick that completes every listed node steps once, from what it was before
the tick, and its inlets show the new numbers of the nodes before it and the old ones of all others.
A tick completes exactly when no such step has a fault.
-/

namespace SignalGraph

section Runs

variable (around : Surroundings)

/-- Turns go well when the first one does and, from where it ends, all others do. -/
theorem Turn.run_cons_iff {turn last : Turn} {ref : Ref} {refs : List Ref} :
    turn.run around (ref :: refs) = (last, none) ↔
      (turn.effect around ref).fault = none ∧
        (turn.step around ref).1.run around refs = (last, none) := by
  rw [← Turn.step_fault, Turn.run]
  cases turn.step around ref with
  | mk next fault =>
      cases fault with
      | none => exact (and_iff_right rfl).symm
      | some fault => simp

/-- The turns of a longer list go on where those of its front have ended. -/
theorem Turn.run_append (turn : Turn) (front back : List Ref) :
    turn.run around (front ++ back) =
      match turn.run around front with
      | (next, none) => next.run around back
      | (next, some fault) => (next, some fault) := by
  induction front generalizing turn with
  | nil => rfl
  | cons ref front ih =>
      simp only [List.cons_append, Turn.run]
      cases turn.step around ref with
      | mk next fault =>
          cases fault with
          | none => exact ih next
          | some fault => rfl

theorem Turn.run_of_append {turn next : Turn} {front back : List Ref}
    (h : turn.run around front = (next, none)) :
    turn.run around (front ++ back) = next.run around back := by
  rw [Turn.run_append, h]

/-- Turns change no node but those that take one. -/
theorem Turn.run_get_of_not_mem (turn : Turn) {refs : List Ref} {other : Ref}
    (h : other ∉ refs) : (turn.run around refs).1.pool.get other = turn.pool.get other := by
  induction refs generalizing turn with
  | nil => rfl
  | cons ref refs ih =>
      rw [List.mem_cons, not_or] at h
      have first := turn.step_get_ne around (Ne.symm h.1)
      simp only [Turn.run]
      cases hstep : turn.step around ref with
      | mk next fault =>
          rw [hstep] at first
          cases fault with
          | none => exact (ih next h.2).trans first
          | some fault => exact first

theorem Turn.get_of_run {turn next : Turn} {refs : List Ref} {other : Ref}
    (ran : turn.run around refs = (next, none)) (h : other ∉ refs) :
    next.pool.get other = turn.pool.get other := by
  have same := turn.run_get_of_not_mem around h
  rwa [ran] at same

/-- Turns that end early end with the step of some node, and all before it have gone well. -/
theorem Turn.run_fault {turn next : Turn} {refs : List Ref} {fault : StepFault}
    (h : turn.run around refs = (next, some fault)) :
    ∃ earlier ref later mid, refs = earlier ++ ref :: later ∧
      turn.run around earlier = (mid, none) ∧ mid.step around ref = (next, some fault) := by
  induction refs generalizing turn with
  | nil => cases h
  | cons ref refs ih =>
      simp only [Turn.run] at h
      cases hstep : turn.step around ref with
      | mk mid outcome =>
          rw [hstep] at h
          cases outcome with
          | none =>
              obtain ⟨earlier, other, later, last, rfl, before, step⟩ := ih h
              refine ⟨ref :: earlier, other, later, last, rfl, ?_, step⟩
              simp only [Turn.run, hstep]
              exact before
          | some other =>
              obtain ⟨rfl, same⟩ := Prod.mk.inj h
              exact ⟨[], ref, refs, turn, rfl, rfl, same ▸ hstep⟩

end Runs

section Readings

/-- What the inlets of a node show when the nodes in `earlier` have taken their turns: the outlets
of those have the numbers of `after`, all others still have those of `before`. -/
def Pool.readings (before after : Pool) (earlier : List Ref) (node : Node) : Inputs :=
  node.inlets.map fun sources =>
    highest? (sources.map fun outlet =>
      if outlet.ref ∈ earlier then after.signal outlet else before.signal outlet)

variable (around : Surroundings)

/-- A node whose turn comes after those of `earlier` sees its readings, whichever later pool they
are taken from, as long as the nodes in `earlier` stay. -/
theorem Turn.inputs_eq_readings {turn next : Turn} {earlier : List Ref} {ref : Ref} {after : Pool}
    (ran : turn.run around earlier = (next, none)) (new : ref ∉ earlier)
    (stay : ∀ other ∈ earlier, after.get other = next.pool.get other) :
    next.pool.inputs (next.pool.get ref) =
      turn.pool.readings after earlier (turn.pool.get ref) := by
  have frame : ∀ other ∉ earlier, next.pool.get other = turn.pool.get other :=
    fun _ outside => Turn.get_of_run around ran outside
  have signals : ∀ outlet : Outlet, next.pool.signal outlet =
      if outlet.ref ∈ earlier then after.signal outlet else turn.pool.signal outlet := by
    intro outlet
    simp only [Pool.signal]
    split
    · rename_i mem
      rw [stay _ mem]
    · rename_i outside
      rw [frame _ outside]
  simp only [Pool.inputs, Pool.readings, frame ref new]
  apply List.map_congr_left
  intro sources _
  exact congrArg highest? (List.map_congr_left fun outlet _ => signals outlet)

end Readings

section Ticks

variable (c : Circuit) (dt : Float) (controls : Controls)

/-- The pool and the generator before the turns of a tick. -/
def Circuit.start : Turn := { pool := c.pool, generator := c.graph.generator }

/-- The effect that the turn of a node has in a tick, where `earlier` are the nodes before it. -/
def Circuit.effect (earlier : List Ref) (ref : Ref) : Effect :=
  let node := c.node ref
  let readings := c.pool.readings (c.tick dt controls).1.pool earlier node
  node.body.step { dt, controls } node.idNumber readings
    (c.start.run { dt, controls } earlier).1.generator

/-- The nodes whose turns come before that of a node. -/
def Circuit.before (ref : Ref) : List Ref := c.graph.nodes.takeWhile fun other => other ≠ ref

/-- Whether a tick gets to a listed node: all turns before its own go well. -/
def Circuit.evaluates (ref : Ref) : Bool :=
  c.graph.nodes.contains ref && (c.start.run { dt, controls } (c.before ref)).2.isNone

theorem Circuit.tick_eq_run :
    c.tick dt controls =
      let (turn, fault) := c.start.run { dt, controls } c.graph.nodes
      ({ pool := turn.pool
         graph := { c.count.graph with generator := turn.generator } }, fault) := rfl

variable {c dt controls} {earlier later : List Ref} {ref : Ref} {mid : Turn}

/-- In the turn of a node that is reached its body steps at its readings, and the nodes before it
stay until the tick ends. -/
theorem Circuit.effect_eq (nodup : c.graph.nodes.Nodup)
    (split : c.graph.nodes = earlier ++ ref :: later)
    (reached : c.start.run { dt, controls } earlier = (mid, none)) :
    mid.effect { dt, controls } ref = c.effect dt controls earlier ref := by
  rw [split, List.nodup_append] at nodup
  have apart : ∀ other ∈ earlier, other ∉ ref :: later :=
    fun other mem there => nodup.2.2 other mem other there rfl
  have new : ref ∉ earlier := fun mem => apart ref mem List.mem_cons_self
  have stay : ∀ other ∈ earlier,
      (c.tick dt controls).1.pool.get other = mid.pool.get other := by
    intro other mem
    rw [c.tick_eq_run, split, Turn.run_of_append _ reached]
    exact mid.run_get_of_not_mem { dt, controls } (apart other mem)
  have seen := Turn.inputs_eq_readings _ reached new stay
  have node : mid.pool.get ref = c.node ref := Turn.get_of_run _ reached new
  have generator : (c.start.run { dt, controls } earlier).1.generator = mid.generator := by
    rw [reached]
  simp only [Turn.effect, Circuit.effect, node, generator]
  rw [node] at seen
  rw [seen]
  rfl

/-- All turns before some node go well if all turns of the tick do. -/
theorem Circuit.reaches (split : c.graph.nodes = earlier ++ later)
    (completes : (c.tick dt controls).2 = none) :
    ∃ mid, c.start.run { dt, controls } earlier = (mid, none) := by
  rw [c.tick_eq_run, split, Turn.run_append] at completes
  cases hrun : c.start.run { dt, controls } earlier with
  | mk mid fault =>
      cases fault with
      | none => exact ⟨mid, rfl⟩
      | some fault =>
          rw [hrun] at completes
          cases completes

/-- A tick completes exactly when no turn has a fault. -/
theorem Circuit.tick_completes_iff (nodup : c.graph.nodes.Nodup) :
    (c.tick dt controls).2 = none ↔
      ∀ earlier ref later, c.graph.nodes = earlier ++ ref :: later →
        (c.effect dt controls earlier ref).fault = none := by
  constructor
  · intro completes earlier ref later split
    obtain ⟨mid, reached⟩ := Circuit.reaches split completes
    rw [← Circuit.effect_eq nodup split reached, ← Turn.step_fault]
    rw [c.tick_eq_run, split, Turn.run_of_append _ reached] at completes
    simp only [Turn.run] at completes
    cases hstep : mid.step { dt, controls } ref with
    | mk next fault =>
        cases fault with
        | none => rfl
        | some fault =>
            rw [hstep] at completes
            cases completes
  · intro well
    cases hrun : c.start.run { dt, controls } c.graph.nodes with
    | mk next outcome =>
        cases outcome with
        | none =>
            rw [c.tick_eq_run, hrun]
        | some fault =>
            obtain ⟨earlier, ref, later, mid, split, reached, step⟩ := Turn.run_fault _ hrun
            have none := well earlier ref later split
            rw [← Circuit.effect_eq nodup split reached, ← Turn.step_fault, step] at none
            cases none

/-- A tick leaves a node that it gets to as its own turn has made it, also when it fails later. -/
theorem Circuit.tick_node_of_reached (nodup : c.graph.nodes.Nodup)
    (split : c.graph.nodes = earlier ++ ref :: later) (inside : ref < c.pool.nodes.size)
    (reached : c.start.run { dt, controls } earlier = (mid, none)) :
    let effect := c.effect dt controls earlier ref
    (c.tick dt controls).1.node ref =
      { c.node ref with
        body := effect.body, outlets := effect.outlets.getD (c.node ref).outlets } := by
  have effect := Circuit.effect_eq nodup split reached
  rw [split, List.nodup_append, List.nodup_cons] at nodup
  obtain ⟨-, ⟨last, -⟩, apart⟩ := nodup
  have new : ref ∉ earlier := fun mem => apart ref mem ref List.mem_cons_self rfl
  have node : mid.pool.get ref = c.node ref := Turn.get_of_run _ reached new
  have size : mid.pool.nodes.size = c.pool.nodes.size := by
    have same := (c.start.run_keeps { dt, controls } earlier).1
    rwa [reached] at same
  have stepped := mid.step_get_self { dt, controls } (size ▸ inside)
  rw [effect, node] at stepped
  -- no turn after its own comes back to the node
  rw [c.tick_eq_run, split, Turn.run_of_append _ reached]
  simp only [Turn.run]
  cases hstep : mid.step { dt, controls } ref with
  | mk next fault =>
      rw [hstep] at stepped
      cases fault with
      | none => exact (next.run_get_of_not_mem { dt, controls } last).trans stepped
      | some fault => exact stepped

/-- A tick that completes leaves a node as its own turn has made it. -/
theorem Circuit.tick_node (nodup : c.graph.nodes.Nodup)
    (split : c.graph.nodes = earlier ++ ref :: later) (inside : ref < c.pool.nodes.size)
    (completes : (c.tick dt controls).2 = none) :
    let effect := c.effect dt controls earlier ref
    (c.tick dt controls).1.node ref =
      { c.node ref with
        body := effect.body, outlets := effect.outlets.getD (c.node ref).outlets } := by
  obtain ⟨mid, reached⟩ := Circuit.reaches split completes
  exact Circuit.tick_node_of_reached nodup split inside reached

/-- A tick that fails before it gets to a node leaves the node as it was. -/
theorem Circuit.tick_node_of_stopped {fault : StepFault}
    (split : c.graph.nodes = earlier ++ ref :: later) (new : ref ∉ earlier)
    (stopped : c.start.run { dt, controls } earlier = (mid, some fault)) :
    (c.tick dt controls).1.node ref = c.node ref := by
  have kept := c.start.run_get_of_not_mem { dt, controls } new
  rw [stopped] at kept
  rw [c.tick_eq_run, split, Turn.run_append, stopped]
  exact kept

theorem Circuit.before_split (listed : ref ∈ c.graph.nodes) :
    ref ∉ c.before ref ∧ ∃ later, c.graph.nodes = c.before ref ++ ref :: later :=
  takeWhile_ne_split listed

/-- A tick leaves a node that it evaluates as the node's turn has made it. -/
theorem Circuit.Sound.tick_evaluated (h : c.Sound) (evaluated : c.evaluates dt controls ref) :
    let effect := c.effect dt controls (c.before ref) ref
    (c.tick dt controls).1.node ref =
      { c.node ref with
        body := effect.body, outlets := effect.outlets.getD (c.node ref).outlets } := by
  rw [Circuit.evaluates, Bool.and_eq_true, List.contains_iff_mem] at evaluated
  obtain ⟨listed, well⟩ := evaluated
  obtain ⟨-, later, split⟩ := Circuit.before_split listed
  cases reached : c.start.run { dt, controls } (c.before ref) with
  | mk mid fault =>
      cases fault with
      | none =>
          exact Circuit.tick_node_of_reached h.nodes_nodup split (h.lt_of_mem listed) reached
      | some fault =>
          rw [reached] at well
          cases well

/-- A tick leaves a node that it does not get to as it was. -/
theorem Circuit.tick_missed (listed : ref ∈ c.graph.nodes)
    (missed : c.evaluates dt controls ref = false) :
    (c.tick dt controls).1.node ref = c.node ref := by
  rw [Circuit.evaluates, List.contains_iff_mem.mpr listed, Bool.true_and] at missed
  obtain ⟨new, later, split⟩ := Circuit.before_split listed
  cases stopped : c.start.run { dt, controls } (c.before ref) with
  | mk mid fault =>
      cases fault with
      | none =>
          rw [stopped] at missed
          cases missed
      | some fault => exact Circuit.tick_node_of_stopped split new stopped

/-- A tick that completes evaluates all nodes. -/
theorem Circuit.evaluates_of_completes (listed : ref ∈ c.graph.nodes)
    (completes : (c.tick dt controls).2 = none) : c.evaluates dt controls ref := by
  obtain ⟨-, later, split⟩ := Circuit.before_split listed
  obtain ⟨mid, reached⟩ := Circuit.reaches split completes
  rw [Circuit.evaluates, List.contains_iff_mem.mpr listed, reached]
  rfl

end Ticks

end SignalGraph
