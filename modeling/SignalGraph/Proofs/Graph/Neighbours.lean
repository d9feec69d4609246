import SignalGraph.Proofs.Graph.Alike
import SignalGraph.Proofs.Graph.Latency

/-!
Neighbours in the list. Two nodes without a wire between them, not both of which draw random
numbers, may take their turns in either order. If they stand next to each other, the circuit with
the two swapped goes through the same ticks.
-/

namespace SignalGraph

section Steps

/-- Two nodes of which neither reads from the other and at most one draws random numbers. -/
structure Pool.Apart (pool : Pool) (first second : Ref) : Prop where
  differ : first ≠ second
  inward : ∀ sources ∈ (pool.get first).inlets, ∀ outlet ∈ sources, second ≠ outlet.ref
  outward : ∀ sources ∈ (pool.get second).inlets, ∀ outlet ∈ sources, first ≠ outlet.ref
  draws : (pool.get first).kind ≠ .random ∨ (pool.get second).kind ≠ .random

variable {pool : Pool} {first second : Ref}

theorem Pool.Apart.symm (h : pool.Apart first second) : pool.Apart second first :=
  ⟨h.differ.symm, h.outward, h.inward, h.draws.symm⟩

/-- Nodes stay apart as long as they keep their inlets and their kinds. -/
theorem Pool.Apart.of_keeps {next : Pool} (h : pool.Apart first second)
    (keeps : ∀ ref, (pool.get ref).Keeps (next.get ref)) : next.Apart first second := by
  refine ⟨h.differ, ?_, ?_, ?_⟩
  · rw [(keeps first).inlets]
    exact h.inward
  · rw [(keeps second).inlets]
    exact h.outward
  · exact h.draws.imp (fun calm random => calm ((keeps first).body.kind.symm.trans random))
      fun calm random => calm ((keeps second).body.kind.symm.trans random)

/-- A node does not see what becomes of a node that it does not read from. -/
theorem Pool.inputs_set_of_unread {ref : Ref} (changed node : Node)
    (unread : ∀ sources ∈ node.inlets, ∀ outlet ∈ sources, ref ≠ outlet.ref) :
    (pool.set ref changed).inputs node = pool.inputs node := by
  refine List.map_congr_left fun sources given => congrArg highest? ?_
  refine List.map_congr_left fun outlet from_here => ?_
  rw [Pool.signal, pool.get_set_ne changed (unread sources given outlet from_here), Pool.signal]

variable (around : Surroundings)

/-- What the turn of a node makes of it. -/
def Turn.stepped (turn : Turn) (ref : Ref) : Node :=
  { turn.pool.get ref with
    body := (turn.effect around ref).body
    outlets := (turn.effect around ref).outlets.getD (turn.pool.get ref).outlets }

theorem Turn.step_eq (turn : Turn) (ref : Ref) :
    turn.step around ref =
      ({ pool := turn.pool.set ref (turn.stepped around ref)
         generator := turn.generator.after (turn.pool.drawCount [ref]) },
        (turn.effect around ref).fault) := by
  rw [← turn.step_generator]
  rfl

variable {turn : Turn}

/-- The turn of a node has no part in what the turn of the other makes of that. -/
theorem Pool.Apart.effect (h : turn.pool.Apart first second) :
    let next := (turn.step around first).1
    next.stepped around second = turn.stepped around second ∧
      (next.effect around second).fault = (turn.effect around second).fault := by
  intro next
  have node : next.pool.get second = turn.pool.get second := turn.step_get_ne around h.differ
  have inputs : next.pool.inputs (turn.pool.get second) =
      turn.pool.inputs (turn.pool.get second) := Pool.inputs_set_of_unread _ _ h.outward
  have same : (next.effect around second).body = (turn.effect around second).body ∧
      (next.effect around second).outlets = (turn.effect around second).outlets ∧
      (next.effect around second).fault = (turn.effect around second).fault := by
    simp only [Turn.effect, node, inputs]
    rcases h.draws with calm | calm
    · -- the generator stays as it was before both turns
      have kept : next.generator = turn.generator := by
        rw [turn.step_generator, Pool.drawCount_single, if_neg calm]
        rfl
      rw [kept]
      exact ⟨rfl, rfl, rfl⟩
    · exact Body.step_generator around calm _ _ _ _
  simp only [Turn.stepped, node, same, and_self]

/-- Two turns of nodes that are apart come to the same in either order. -/
theorem Pool.Apart.step_comm (h : turn.pool.Apart first second) :
    ((turn.step around first).1.step around second).1 =
      ((turn.step around second).1.step around first).1 := by
  obtain ⟨there, -⟩ := h.effect around
  obtain ⟨back, -⟩ := h.symm.effect around
  simp only [Turn.step_eq _ (turn.step around _).1, there, back, Turn.step_drawCount]
  simp only [Turn.step_eq, ← Random.Generator.after_add]
  congr 1
  · exact congrArg Pool.mk (Array.setIfInBounds_comm _ _ h.differ)
  · rw [Nat.add_comm]

/-- Two turns that go well go well in the other order as well, and so do all turns behind them. -/
theorem Pool.Apart.run_swap (h : turn.pool.Apart first second) {last : Turn} {later : List Ref}
    (ran : turn.run around (first :: second :: later) = (last, none)) :
    turn.run around (second :: first :: later) = (last, none) := by
  obtain ⟨-, late⟩ := h.effect around
  obtain ⟨-, early⟩ := h.symm.effect around
  rw [Turn.run_cons_iff, Turn.run_cons_iff] at ran ⊢
  obtain ⟨one, two, rest⟩ := ran
  rw [h.step_comm] at rest
  exact ⟨late.symm.trans two, early.trans one, rest⟩

end Steps

section Ticks

/-- The circuit with another list of its nodes, and else as it is. -/
def Circuit.reorder (c : Circuit) (nodes : List Ref) : Circuit :=
  { c with graph := { c.graph with nodes } }

/-- All ticks of a history complete. -/
def Circuit.Completes (c : Circuit) : List (Float × Controls) → Prop
  | [] => True
  | tick :: history =>
      (c.tick tick.1 tick.2).2 = none ∧ (c.tick tick.1 tick.2).1.Completes history

variable {c : Circuit} {earlier later : List Ref} {first second : Ref}

/-- A tick that completes does the same with the two nodes swapped. -/
theorem Circuit.tick_reorder (h : c.pool.Apart first second)
    (split : c.graph.nodes = earlier ++ first :: second :: later) (dt : Float)
    (controls : Controls) (completes : (c.tick dt controls).2 = none) :
    (c.reorder (earlier ++ second :: first :: later)).tick dt controls =
      ((c.tick dt controls).1.reorder (earlier ++ second :: first :: later), none) := by
  obtain ⟨mid, reached⟩ := Circuit.reaches split completes
  have kept := (c.start.run_keeps { dt, controls } earlier).2
  rw [reached] at kept
  cases ran : mid.run { dt, controls } (first :: second :: later) with
  | mk last fault =>
      rw [c.tick_eq_run, split, Turn.run_of_append _ reached, ran] at completes ⊢
      obtain rfl : fault = none := completes
      have swapped := Pool.Apart.run_swap _ (h.of_keeps kept) ran
      have all := (Turn.run_of_append _ reached).trans swapped
      have start : (c.reorder (earlier ++ second :: first :: later)).start = c.start := rfl
      rw [Circuit.tick_eq_run, start, Circuit.reorder, all]
      rfl

/-- Swapping two such neighbours changes nothing in any ticks that complete. -/
theorem Circuit.ticks_reorder (h : c.pool.Apart first second)
    (split : c.graph.nodes = earlier ++ first :: second :: later)
    {history : List (Float × Controls)} (completes : c.Completes history) :
    (c.reorder (earlier ++ second :: first :: later)).Completes history ∧
      (c.reorder (earlier ++ second :: first :: later)).ticks history =
        (c.ticks history).reorder (earlier ++ second :: first :: later) := by
  induction history generalizing c with
  | nil => exact ⟨trivial, rfl⟩
  | cons tick history ih =>
      obtain ⟨now, onwards⟩ := completes
      have swapped := Circuit.tick_reorder h split tick.1 tick.2 now
      have next := ih (h.of_keeps (c.tick_keeps tick.1 tick.2)) split onwards
      simp only [Circuit.Completes, Circuit.ticks, List.foldl_cons, swapped, true_and]
      exact next

theorem Circuit.Completes.of_prefix {c : Circuit} {front history : List (Float × Controls)}
    (completes : c.Completes history) (h : front <+: history) : c.Completes front := by
  induction front generalizing c history with
  | nil => trivial
  | cons tick front ih =>
      obtain ⟨back, rfl⟩ := h
      exact ⟨completes.1, ih completes.2 (List.prefix_append front back)⟩

theorem Circuit.Completes.last {c : Circuit} {front : List (Float × Controls)}
    {tick : Float × Controls} (completes : c.Completes (front ++ [tick])) :
    ((c.ticks front).tick tick.1 tick.2).2 = none := by
  induction front generalizing c with
  | nil => exact completes.1
  | cons first front ih => exact ih completes.2

end Ticks

section Sessions

variable {c : Circuit} {earlier later : List Ref} {first second : Ref}

/-- A wire is a connection of the circuit. -/
theorem Circuit.link_of_source {target : Ref} (listed : target ∈ c.graph.nodes)
    {sources : List Outlet} (given : sources ∈ (c.node target).inlets) {outlet : Outlet}
    (from_here : outlet ∈ sources) :
    ∃ link ∈ c.links, link.source = (c.node outlet.ref).idNumber ∧
      link.target = (c.node target).idNumber := by
  obtain ⟨slot, found⟩ := List.mem_iff_getElem?.mp given
  refine ⟨{ source := (c.node outlet.ref).idNumber, outletSlot := outlet.slot
            target := (c.node target).idNumber, inletSlot := slot }, ?_, rfl, rfl⟩
  refine List.mem_flatMap.mpr ⟨c.node target, List.mem_map.mpr ⟨target, listed, rfl⟩, ?_⟩
  exact List.mem_flatMap.mpr ⟨(sources, slot), List.mem_zipIdx_iff_getElem?.mpr found,
    List.mem_map.mpr ⟨outlet, from_here, rfl⟩⟩

/-- Two nodes without a connection in either direction, not both random. -/
structure Circuit.Strangers (c : Circuit) (first second : Ref) : Prop where
  apart : ∀ link ∈ c.links,
    ¬(link.source = (c.node first).idNumber ∧ link.target = (c.node second).idNumber) ∧
      ¬(link.source = (c.node second).idNumber ∧ link.target = (c.node first).idNumber)
  draws : ¬((c.node first).kind = .random ∧ (c.node second).kind = .random)

theorem Circuit.Sound.apart (h : c.Sound)
    (split : c.graph.nodes = earlier ++ first :: second :: later)
    (strangers : c.Strangers first second) : c.pool.Apart first second := by
  have one : first ∈ c.graph.nodes := by
    rw [split]
    exact List.mem_append_right _ List.mem_cons_self
  have two : second ∈ c.graph.nodes := by
    rw [split]
    exact List.mem_append_right _ (List.mem_cons_of_mem _ List.mem_cons_self)
  have nodup := h.nodes_nodup
  rw [split, List.nodup_append, List.nodup_cons, List.mem_cons, not_or] at nodup
  refine ⟨nodup.2.1.1.1, ?_, ?_, not_and_or.mp strangers.draws⟩
  · rintro sources given outlet from_here rfl
    obtain ⟨link, mem, source, target⟩ := Circuit.link_of_source one given from_here
    exact (strangers.apart link mem).2 ⟨source, target⟩
  · rintro sources given outlet from_here rfl
    obtain ⟨link, mem, source, target⟩ := Circuit.link_of_source two given from_here
    exact (strangers.apart link mem).1 ⟨source, target⟩

/-- In every session that started empty, whatever messages it has answered: where two neighbours in
the list have no connection and are not both random, and all ticks of a history complete, they
complete with the two swapped as well, and after each of them nothing differs but the list. -/
theorem Session.ticks_swap {generator : Random.Generator} {mode : CompileMode}
    {messages : List Fields}
    (reached : (Session.after { circuit := { graph := { generator } }, mode } messages).circuit = c)
    (split : c.graph.nodes = earlier ++ first :: second :: later)
    (strangers : c.Strangers first second) {history : List (Float × Controls)}
    (completes : c.Completes history) :
    let swapped := c.reorder (earlier ++ second :: first :: later)
    swapped.Completes history ∧ ∀ front, front <+: history →
      swapped.ticks front = (c.ticks front).reorder swapped.graph.nodes ∧
        ∀ ref, (swapped.ticks front).node ref = (c.ticks front).node ref := by
  intro swapped
  have sound : c.Sound := reached ▸ Session.after_sound (Circuit.sound_of_empty rfl rfl) messages
  have apart := sound.apart split strangers
  refine ⟨(Circuit.ticks_reorder apart split completes).1, fun front before => ?_⟩
  have same := (Circuit.ticks_reorder apart split (completes.of_prefix before)).2
  exact ⟨same, fun ref => (congrArg (fun next : Circuit => next.node ref) same :)⟩

/-- A random node and a timer, both read by a sum that resets the timer. -/
theorem Session.ticks_swap_cycle :
    let text := String.intercalate "\n"
      ["TOYCON_v1", "NODE 0 RandomNode 0 0", "NODE 1 TimerNode 0 0", "NODE 2 MathNode 0 0 Add",
        "CONN 0 0 2 0", "CONN 1 0 2 1", "CONN 2 0 1 0"]
    let load : Fields := [("type", .text "LOAD"), ("text", .text text)]
    let start : Session := { circuit := { graph := { generator := .ofSeed 0 } }, mode := .atomic }
    let c := (start.after [load]).circuit
    let swapped := c.reorder [1, 0, 2]
    let history : List (Float × Controls) := [(0.5, .idle), (0.25, .idle)]
    c.graph.nodes = [0, 1, 2] ∧ c.Strangers 0 1 ∧ c.Completes history ∧
      swapped.Completes history ∧ ∀ front, front <+: history →
        swapped.ticks front = (c.ticks front).reorder swapped.graph.nodes ∧
          ∀ ref, (swapped.ticks front).node ref = (c.ticks front).node ref := by
  intro text load start c swapped history
  have reached : (start.after [load]).circuit = c := rfl
  -- in one evaluation, since every one of them loads the text
  have facts : c.graph.nodes = [] ++ 0 :: 1 :: [2] ∧ (∀ link ∈ c.links,
      ¬(link.source = (c.node 0).idNumber ∧ link.target = (c.node 1).idNumber) ∧
        ¬(link.source = (c.node 1).idNumber ∧ link.target = (c.node 0).idNumber)) ∧
      ¬((c.node 0).kind = .random ∧ (c.node 1).kind = .random) ∧ (c.tick 0.5 .idle).2 = none ∧
      ((c.tick 0.5 .idle).1.tick 0.25 .idle).2 = none := by decide +kernel
  obtain ⟨split, apart, draws, first, second⟩ := facts
  have strangers : c.Strangers 0 1 := ⟨apart, draws⟩
  have completes : c.Completes history := ⟨first, second, trivial⟩
  exact ⟨split, strangers, completes, Session.ticks_swap reached split strangers completes⟩

end Sessions

end SignalGraph
