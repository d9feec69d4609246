import SignalGraph.Proofs.Graph.Sweep
import SignalGraph.Proofs.Session.Wiring

/-!
Latency. A tick that completes takes every listed node through one step of its kind. The node's
inlets show the numbers after the tick of nodes before it in the list, and the numbers before the
tick of itself and of nodes after it; random nodes take the draws of the generator in the order of
the list. Nothing else happens in a tick.
-/

namespace SignalGraph

section Draws

/-- The generator after a number of draws. -/
def Random.Generator.after (generator : Random.Generator) : Nat → Random.Generator
  | 0 => generator
  | count + 1 => generator.draw.2.after count

/-- How many of some nodes draw random numbers. -/
def Pool.drawCount (pool : Pool) (refs : List Ref) : Nat :=
  refs.countP fun ref => (pool.get ref).kind = .random

theorem Random.Generator.after_add (generator : Random.Generator) (first second : Nat) :
    generator.after (first + second) = (generator.after first).after second := by
  induction first generalizing generator with
  | zero => rw [Nat.zero_add, Random.Generator.after]
  | succ first ih =>
      rw [Nat.succ_add]
      exact ih generator.draw.2

theorem Pool.drawCount_append (pool : Pool) (front back : List Ref) :
    pool.drawCount (front ++ back) = pool.drawCount front + pool.drawCount back :=
  List.countP_append

theorem Pool.drawCount_single (pool : Pool) (ref : Ref) :
    pool.drawCount [ref] = if (pool.get ref).kind = .random then 1 else 0 := by
  rw [Pool.drawCount, List.countP_singleton]
  simp only [decide_eq_true_eq]

variable (around : Surroundings)

/-- A random body draws once, and all others leave the generator alone. -/
theorem Body.step_draws (body : Body) (id : Int) (inputs : Inputs)
    (generator : Random.Generator) :
    (body.step around id inputs generator).generator =
      generator.after (if body.kind = .random then 1 else 0) := by
  cases body with
  | key v => cases v <;> rfl
  | _ => rfl

theorem Turn.step_generator (turn : Turn) (ref : Ref) :
    (turn.step around ref).1.generator = turn.generator.after (turn.pool.drawCount [ref]) := by
  rw [Pool.drawCount_single]
  exact Body.step_draws around _ _ _ _

theorem Pool.drawCount_congr {pool next : Pool}
    (kinds : ∀ ref, (next.get ref).kind = (pool.get ref).kind) (refs : List Ref) :
    next.drawCount refs = pool.drawCount refs := by
  simp only [Pool.drawCount, kinds]

theorem Turn.step_drawCount (turn : Turn) (ref : Ref) (refs : List Ref) :
    (turn.step around ref).1.pool.drawCount refs = turn.pool.drawCount refs :=
  Pool.drawCount_congr (fun other => (turn.step_keeps around ref other).body.kind) refs

/-- Turns that all go well draw once for each random node among them. -/
theorem Turn.run_generator {turn next : Turn} {refs : List Ref}
    (ran : turn.run around refs = (next, none)) :
    next.generator = turn.generator.after (turn.pool.drawCount refs) := by
  induction refs generalizing turn with
  | nil =>
      cases ran
      rfl
  | cons ref refs ih =>
      obtain ⟨-, rest⟩ := (Turn.run_cons_iff around).mp ran
      calc next.generator
          = (turn.step around ref).1.generator.after
              ((turn.step around ref).1.pool.drawCount refs) := ih rest
        _ = (turn.generator.after (turn.pool.drawCount [ref])).after
              (turn.pool.drawCount refs) := by
            rw [turn.step_generator, turn.step_drawCount]
        _ = turn.generator.after (turn.pool.drawCount (ref :: refs)) := by
            rw [← Random.Generator.after_add, ← Pool.drawCount_append, List.singleton_append]

end Draws

section Sweeps

/-- Of some numbers the first, unless a later one is greater; zero where there are none. -/
def greatest : List Float → Float
  | [] => 0.0
  | x :: xs => xs.foldl (fun most y => if most < y then y else most) x

/-- The number that an outlet shows, in a tick from `c` to `next`, to a node that has the nodes in
`earlier` before it. -/
def Circuit.shown (c next : Circuit) (earlier : List Ref) (outlet : Outlet) : Float :=
  if outlet.ref ∈ earlier then next.pool.signal outlet else c.pool.signal outlet

/-- How a tick from `c` to `next` takes a node through one step, where the list has `earlier` before
the node and `later` after it. -/
structure Circuit.Evaluates (c next : Circuit) (around : Surroundings) (earlier : List Ref)
    (ref : Ref) (later : List Ref) : Prop where
  /-- Every source is before the node, or the node itself, or behind it. -/
  sources : ∀ sources ∈ (c.node ref).inlets, ∀ outlet ∈ sources,
    outlet.ref ∈ earlier ∨ outlet.ref ∈ ref :: later
  level : ∀ slot, (c.pool.readings next.pool earlier (c.node ref)).level slot =
    greatest (((c.node ref).inlets.getD slot []).map (c.shown next earlier))
  isConnected : ∀ slot, (c.pool.readings next.pool earlier (c.node ref)).isConnected slot =
    !((c.node ref).inlets.getD slot []).isEmpty
  /-- The body steps without a fault, at the draws that the nodes before it have left. -/
  step : (c.node ref).body.step around (c.node ref).idNumber
      (c.pool.readings next.pool earlier (c.node ref))
      (c.graph.generator.after (c.pool.drawCount earlier)) =
    { body := (next.node ref).body
      outlets := some (next.node ref).outlets
      generator := c.graph.generator.after (c.pool.drawCount (earlier ++ [ref])) }
  frame : next.node ref =
    { c.node ref with body := (next.node ref).body, outlets := (next.node ref).outlets }

/-- What a tick from `c` to `next` is that completes: every listed node, each of which stands in the
list once, takes one step, and besides the tick is counted and the generator has moved on. -/
structure Circuit.Sweeps (c next : Circuit) (around : Surroundings) : Prop where
  once : c.graph.nodes.Nodup
  evaluates : ∀ earlier ref later, c.graph.nodes = earlier ++ ref :: later →
    c.Evaluates next around earlier ref later
  others : ∀ ref ∉ c.graph.nodes, next.node ref = c.node ref
  graph : next.graph = { c.graph with
    tickCount := c.graph.tickCount + 1
    generator := c.graph.generator.after (c.pool.drawCount c.graph.nodes) }

/-- The number at an inlet is the greatest of those that its sources show. -/
theorem Pool.readings_level (c next : Circuit) (earlier : List Ref) (node : Node) (slot : Nat) :
    (c.pool.readings next.pool earlier node).level slot =
      greatest ((node.inlets.getD slot []).map (c.shown next earlier)) := by
  have highest : ∀ xs, (highest? xs).getD 0.0 = greatest xs := fun xs => by cases xs <;> rfl
  simp only [Inputs.level, Pool.readings, List.getD_eq_getElem?_getD, List.getElem?_map, ← highest]
  cases node.inlets[slot]? <;> rfl

theorem Pool.readings_isConnected (pool after : Pool) (earlier : List Ref) (node : Node)
    (slot : Nat) :
    (pool.readings after earlier node).isConnected slot = !(node.inlets.getD slot []).isEmpty := by
  simp only [Inputs.isConnected, Pool.readings, List.getD_eq_getElem?_getD, List.getElem?_map]
  cases node.inlets[slot]? with
  | none => rfl
  | some sources => cases sources <;> rfl

/-- A step without a fault puts out numbers, and draws if the body is random. -/
theorem Body.step_of_well (around : Surroundings) (body : Body) (id : Int) (inputs : Inputs)
    (generator : Random.Generator) (well : (body.step around id inputs generator).fault = none) :
    ∃ stepped numbers, body.step around id inputs generator =
      { body := stepped
        outlets := some numbers
        generator := generator.after (if body.kind = .random then 1 else 0) } := by
  cases body with
  | key v =>
      cases v with
      | text name => exact ⟨_, _, rfl⟩
      | _ => cases well
  | screen screen =>
      refine ⟨.screen (screen.step inputs).1, [], ?_⟩
      exact congrArg (Effect.mk _ _ _) well
  | _ => exact ⟨_, _, rfl⟩

variable {c : Circuit} {dt : Float} {controls : Controls}

theorem Circuit.Sound.sweeps (h : c.Sound) (completes : (c.tick dt controls).2 = none) :
    c.Sweeps (c.tick dt controls).1 { dt, controls } := by
  refine ⟨h.nodes_nodup, fun earlier ref later split => ?_, fun ref unlisted => ?_, ?_⟩
  · have listed : ref ∈ c.graph.nodes := by
      rw [split]
      exact List.mem_append_right _ List.mem_cons_self
    obtain ⟨mid, reached⟩ := Circuit.reaches split completes
    have drawn : mid.generator = c.graph.generator.after (c.pool.drawCount earlier) :=
      Turn.run_generator _ reached
    have effect : c.effect dt controls earlier ref = (c.node ref).body.step { dt, controls }
        (c.node ref).idNumber
        (c.pool.readings (c.tick dt controls).1.pool earlier (c.node ref))
        (c.graph.generator.after (c.pool.drawCount earlier)) := by
      simp only [Circuit.effect, reached, drawn]
    have well := (Circuit.tick_completes_iff h.nodes_nodup).mp completes earlier ref later split
    have node := Circuit.tick_node h.nodes_nodup split (h.lt_of_mem listed) completes
    rw [effect] at well node
    obtain ⟨body, numbers, stepped⟩ := Body.step_of_well _ _ _ _ _ well
    rw [stepped] at node
    refine ⟨fun sources given outlet from_here => ?_, fun slot => ?_, fun slot => ?_, ?_, ?_⟩
    · have source := ((h.wired ref listed).sources sources given outlet from_here).1
      rwa [split, List.mem_append] at source
    · exact Pool.readings_level c _ earlier _ slot
    · exact Pool.readings_isConnected _ _ earlier _ slot
    · rw [stepped, node, Pool.drawCount_append, Pool.drawCount_single, Random.Generator.after_add]
      rfl
    · rw [node]
  · exact Turn.run_get_of_not_mem _ _ unlisted
  · obtain ⟨last, reached⟩ := Circuit.reaches (List.append_nil c.graph.nodes).symm completes
    have drawn : last.generator = c.graph.generator.after (c.pool.drawCount c.graph.nodes) :=
      Turn.run_generator _ reached
    rw [c.tick_eq_run, reached, ← drawn]
    rfl

theorem Pool.readings_congr (pool : Pool) {after other : Pool} {earlier : List Ref}
    (same : ∀ ref ∈ earlier, other.get ref = after.get ref) (node : Node) :
    pool.readings other earlier node = pool.readings after earlier node := by
  simp only [Pool.readings]
  refine List.map_congr_left fun sources _ => congrArg highest? (List.map_congr_left ?_)
  intro outlet _
  split
  · rename_i mem
    rw [Pool.signal, same _ mem, Pool.signal]
  · rfl

/-- What all nodes step to follows from what they were: no two sweeps of a circuit differ. -/
theorem Circuit.Sweeps.unique {next other : Circuit} {around : Surroundings}
    (h : c.Sweeps next around) (h' : c.Sweeps other around) :
    other.graph = next.graph ∧ ∀ ref, other.node ref = next.node ref := by
  -- By induction on the front of the list, from its end: a node reads new numbers of those before.
  have listed : ∀ front back, c.graph.nodes = front ++ back →
      ∀ ref ∈ front, other.node ref = next.node ref := by
    intro front
    induction front using List.reverseRecOn with
    | nil => exact fun _ _ _ mem => nomatch mem
    | append_singleton front last ih =>
        intro back split ref mem
        rw [List.append_assoc, List.singleton_append] at split
        rcases List.mem_append.mp mem with before | here
        · exact ih _ split ref before
        · obtain rfl := List.mem_singleton.mp here
          have first := h.evaluates front ref back split
          have second := h'.evaluates front ref back split
          have stepped := second.step
          rw [Pool.readings_congr c.pool (ih _ split), first.step] at stepped
          injection stepped with bodies outlets
          rw [first.frame, second.frame, bodies, Option.some.inj outlets]
  refine ⟨h'.graph.trans h.graph.symm, fun ref => ?_⟩
  by_cases mem : ref ∈ c.graph.nodes
  · exact listed _ [] (List.append_nil _).symm ref mem
  · rw [h.others ref mem, h'.others ref mem]

end Sweeps

section Sessions

/-- In every session that started empty, whatever messages it has answered, a tick that completes
takes each node through one step, at the numbers of this tick from the nodes before it and those of
the last tick from itself and the nodes behind it; and only what the tick makes of the circuit fits
that. -/
theorem Session.tick_sweeps (generator : Random.Generator) (mode : CompileMode)
    (messages : List Fields) (dt : Float) (controls : Controls)
    (completes : ((Session.after { circuit := { graph := { generator } }, mode }
      messages).circuit.tick dt controls).2 = none) :
    let c := (Session.after { circuit := { graph := { generator } }, mode } messages).circuit
    ∃ next, c.tick dt controls = (next, none) ∧ c.Sweeps next { dt, controls } ∧
      ∀ other : Circuit, c.Sweeps other { dt, controls } →
        other.graph = next.graph ∧ ∀ ref, other.node ref = next.node ref := by
  intro c
  have sound : c.Sound := Session.after_sound (Circuit.sound_of_empty rfl rfl) messages
  have swept : c.Sweeps (c.tick dt controls).1 { dt, controls } := sound.sweeps completes
  exact ⟨_, Prod.ext rfl completes, swept, fun _ fits => swept.unique fits⟩

/-- A sum that reads from an earlier random node, from itself and from a later random node at one
inlet, and from a counter that it feeds at the other. -/
theorem Session.tick_sweeps_loop :
    let text := String.intercalate "\n"
      ["TOYCON_v1", "NODE 0 RandomNode 0 0", "NODE 1 MathNode 0 0 Add",
        "NODE 2 CounterNode 0 0 2.0", "NODE 3 RandomNode 0 0", "CONN 0 0 1 0", "CONN 1 0 1 0",
        "CONN 3 0 1 0", "CONN 2 0 1 1", "CONN 1 0 2 0"]
    let load : Fields := [("type", .text "LOAD"), ("text", .text text)]
    let tick : Fields := [("type", .text "TICK"), ("dt", .float 0.5)]
    let start : Session := { circuit := { graph := { generator := .ofSeed 0 } }, mode := .atomic }
    let c := (start.after [load, tick]).circuit
    ∃ next, c.tick 0.25 .idle = (next, none) ∧
      c.Sweeps next { dt := 0.25, controls := .idle } ∧
      ∀ other : Circuit, c.Sweeps other { dt := 0.25, controls := .idle } →
        other.graph = next.graph ∧ ∀ ref, other.node ref = next.node ref := by
  intro text load tick start c
  have completes : (c.tick 0.25 .idle).2 = none := by decide +kernel
  exact Session.tick_sweeps (.ofSeed 0) .atomic [load, tick] 0.25 .idle completes

end Sessions

end SignalGraph
