import SignalGraph.Proofs.Graph.Built
import SignalGraph.Proofs.Graph.Turns

/-!
Circuits whose nodes are the gates of a script. The gates stand in the order of the turns and read
earlier gates only. So in every tick each node finds its inlets settled when its turn comes, and a
tick that completes leaves at each outlet the value of its gate.
-/

namespace SignalGraph

open Script

section Hosting

/-- The node of a gate between two turns. Only a sink has changed since it was installed. -/
structure Script.Gate.Hosted (gate : Gate) (first i : Nat) (node : Node) : Prop where
  id : node.id = some i
  inlets : node.inlets = (gate.node first i).inlets
  keeps : gate.body.Keeps node.body
  pure : gate.body.isPure → node.body = gate.body

/-- The nodes of all gates, from a reference on. -/
structure Hosts (gates : List Gate) (first : Nat) (pool : Pool) : Prop where
  size : first + gates.length ≤ pool.nodes.size
  hosted : ∀ (i : Nat) (gate : Gate), gates[i]? = some gate →
    gate.Hosted first i (pool.get (first + i))

/-- The first outlets hold the values of their gates. -/
def Settled (gates : List Gate) (first count : Nat) (pool : Pool) : Prop :=
  ∀ (i : Nat) (gate : Gate), i < count → gates[i]? = some gate → gate.body.isPure →
    (pool.get (first + i)).outlets = [(gateValues gates).getD i 0.0]

/-- What a turn at some inputs makes of a body. -/
def Body.StepsTo (inputs : Inputs) (before after : Body) : Prop :=
  ∃ around id generator, after = (before.step around id inputs generator).body

/-- The fault of a turn at some inputs. -/
def Body.faultAt (inputs : Inputs) : Body → Option StepFault
  | .screen shown => (shown.step inputs).2
  | .key (.text _) => none
  | .key v => some (.key v.typeName)
  | _ => none

def Script.Gate.fault (values : List Float) (gate : Gate) : Option StepFault :=
  gate.body.faultAt (gate.inputs values)

theorem Body.step_fault (around : Surroundings) (id : Int) (inputs : Inputs)
    (generator : Random.Generator) (body : Body) :
    (body.step around id inputs generator).fault = body.faultAt inputs := by
  cases body with
  | key v => cases v <;> rfl
  | _ => rfl

theorem Body.faultAt_of_isPure {body : Body} (h : body.isPure) (inputs : Inputs) :
    body.faultAt inputs = none := by
  cases body <;> first | rfl | cases h

/-- What a screen shows does not matter to its faults. -/
theorem Screen.step_fault (screen other : Screen) (inputs : Inputs) :
    (screen.step inputs).2 = (other.step inputs).2 := by
  simp only [Screen.step]
  split
  · cases truncate (inputs.level 0) <;> cases truncate (inputs.level 1) <;> rfl
  · rfl

/-- A sink has the same faults whatever it was told before. -/
theorem Body.Keeps.faultAt {before after : Body} (h : before.Keeps after) (sink : before.isSink)
    (inputs : Inputs) : after.faultAt inputs = before.faultAt inputs := by
  have kind := h.kind
  cases before with
  | screen _ => cases after <;> first | exact Screen.step_fault _ _ _ | cases kind
  | beep _ => cases after <;> first | rfl | cases kind
  | color _ _ _ => cases after <;> first | rfl | cases kind
  | _ => cases sink

variable {gates : List Gate} {first : Nat}

/-- A node whose sources are settled sees what its gate sees. -/
theorem Hosts.inputs {pool : Pool} (hosts : Hosts gates first pool) (wired : WellWired gates)
    {count : Nat} (settled : Settled gates first count pool) {i : Nat} (due : i ≤ count)
    {gate : Gate} (found : gates[i]? = some gate) :
    pool.inputs (pool.get (first + i)) = gate.inputs (gateValues gates) := by
  have hosted := hosts.hosted i gate found
  have fits := wired i gate found
  simp only [Pool.inputs, hosted.inlets, Gate.node, Gate.inputs, List.map_map]
  apply List.map_congr_left
  intro source mem
  cases source with
  | none => rfl
  | some wire =>
      obtain ⟨reader, earlier, pure⟩ := fits.live wire mem
      have bound := (List.getElem?_eq_some_iff.mp earlier).1
      rw [List.length_take] at bound
      have early := Nat.lt_of_lt_of_le bound (Nat.min_le_left i gates.length)
      rw [List.getElem?_take_of_lt early] at earlier
      have outlets := settled wire reader (Nat.lt_of_lt_of_le early due) earlier pure
      have signal : pool.signal { ref := first + wire, slot := 0 } =
          (gateValues gates).getD wire 0.0 := by
        simp only [Pool.signal, outlets]
        rfl
      simp only [Function.comp_apply, outletsOf, Option.map_some, Option.toList_some,
        List.map_cons, List.map_nil, signal]
      rfl

variable (around : Surroundings)

theorem Hosts.step {turn : Turn} (ref : Ref) (hosts : Hosts gates first turn.pool) :
    Hosts gates first (turn.step around ref).1.pool := by
  refine ⟨by rw [turn.step_size]; exact hosts.size, ?_⟩
  intro i gate found
  have hosted := hosts.hosted i gate found
  have keeps := turn.step_keeps around ref (first + i)
  refine ⟨keeps.id.trans hosted.id, keeps.inlets.trans hosted.inlets,
    hosted.keeps.trans keeps.body, ?_⟩
  intro pure
  by_cases same : ref = first + i
  · subst same
    have bound := (List.getElem?_eq_some_iff.mp found).1
    have inside : first + i < turn.pool.nodes.size := by
      have size := hosts.size
      omega
    rw [turn.step_get_self around inside]
    simp only [Turn.effect, hosted.pure pure, Body.step_of_isPure pure]
  · rw [turn.step_get_ne around same]
    exact hosted.pure pure

theorem Hosts.step_fault {turn : Turn} (hosts : Hosts gates first turn.pool)
    (wired : WellWired gates) {k : Nat} (settled : Settled gates first k turn.pool) {gate : Gate}
    (found : gates[k]? = some gate) :
    (turn.step around (first + k)).2 = gate.fault (gateValues gates) := by
  have seen := hosts.inputs wired settled (Nat.le_refl k) found
  have hosted := hosts.hosted k gate found
  rw [turn.step_fault, Turn.effect, Body.step_fault, seen]
  rcases (wired k gate found).body with pure | ⟨sink, start⟩
  · rw [hosted.pure pure]
    rfl
  · have isSink : gate.body.isSink := start ▸ sink.body_isSink
    exact hosted.keeps.faultAt isSink _

/-- The turn of a node whose sources are settled: its body steps at the inputs of its gate, and
if it has an outlet this is settled too. -/
theorem Hosts.step_settles {turn : Turn} (hosts : Hosts gates first turn.pool)
    (wired : WellWired gates) {k : Nat} (settled : Settled gates first k turn.pool) {gate : Gate}
    (found : gates[k]? = some gate) :
    Settled gates first (k + 1) (turn.step around (first + k)).1.pool ∧
      Body.StepsTo (gate.inputs (gateValues gates)) (turn.pool.get (first + k)).body
        ((turn.step around (first + k)).1.pool.get (first + k)).body := by
  have bound := (List.getElem?_eq_some_iff.mp found).1
  have inside : first + k < turn.pool.nodes.size := by
    have size := hosts.size
    omega
  have seen := hosts.inputs wired settled (Nat.le_refl k) found
  have after := turn.step_get_self around inside
  constructor
  · intro i other before there pure
    rcases Nat.lt_or_ge i k with early | late
    · rw [turn.step_get_ne around (show first + k ≠ first + i by omega)]
      exact settled i other early there pure
    · obtain rfl : i = k := by omega
      obtain rfl : gate = other := Option.some.inj (found.symm.trans there)
      rw [after]
      simp only [Turn.effect, (hosts.hosted i gate found).pure pure, Body.step_of_isPure pure, seen,
        Option.getD_some]
      rw [wired.value found]
      rfl
  · refine ⟨around, (turn.pool.get (first + k)).idNumber, turn.generator, ?_⟩
    rw [after, ← seen]
    rfl

/-- What the turns from gate `k` on have made of the pool: the earlier nodes are as they were, and
each later one has stepped, unless a fault came before it. That is the fault of the first gate that
has one. -/
structure Ticked (gates : List Gate) (first k : Nat) (before after : Pool)
    (fault : Option StepFault) : Prop where
  outcome : fault = (gates.drop k).findSome? (Gate.fault (gateValues gates))
  settled : fault = none → Settled gates first gates.length after
  early : ∀ i < k, after.get (first + i) = before.get (first + i)
  late : ∀ (i : Nat) (gate : Gate), k ≤ i → gates[i]? = some gate →
    Body.StepsTo (gate.inputs (gateValues gates)) (before.get (first + i)).body
        (after.get (first + i)).body ∨
      fault ≠ none ∧ (after.get (first + i)).body = (before.get (first + i)).body

/-- What the turn of gate `k` has made of the pool: the node of the gate has stepped, and no other
node has changed. -/
structure Stepped (gates : List Gate) (first k : Nat) (gate : Gate) (before after : Pool)
    (fault : Option StepFault) : Prop where
  found : gates[k]? = some gate
  outcome : fault = gate.fault (gateValues gates)
  stepped : Body.StepsTo (gate.inputs (gateValues gates)) (before.get (first + k)).body
    (after.get (first + k)).body
  others : ∀ i, i ≠ k → after.get (first + i) = before.get (first + i)

theorem Hosts.step_stepped {turn : Turn} (hosts : Hosts gates first turn.pool)
    (wired : WellWired gates) {k : Nat} (settled : Settled gates first k turn.pool) {gate : Gate}
    (found : gates[k]? = some gate) :
    Stepped gates first k gate turn.pool (turn.step around (first + k)).1.pool
      (turn.step around (first + k)).2 :=
  ⟨found, hosts.step_fault around wired settled found,
    (hosts.step_settles around wired settled found).2,
    fun i other => turn.step_get_ne around (show first + k ≠ first + i by omega)⟩

section Ticks

variable {k : Nat} {gate : Gate} {before mid after : Pool} {fault : Option StepFault}

/-- The first fault from gate `k` on is that of gate `k`, or the first one after it. -/
theorem Stepped.findSome?_drop (h : Stepped gates first k gate before after fault) :
    (gates.drop k).findSome? (Gate.fault (gateValues gates)) =
      fault.or ((gates.drop (k + 1)).findSome? (Gate.fault (gateValues gates))) := by
  obtain ⟨bound, rfl⟩ := List.getElem?_eq_some_iff.mp h.found
  rw [List.drop_eq_getElem_cons bound, List.findSome?_cons, ← h.outcome]
  cases fault <;> rfl

theorem Stepped.halt {stop : StepFault}
    (h : Stepped gates first k gate before after (some stop)) :
    Ticked gates first k before after (some stop) := by
  have halted : some stop ≠ none := Option.some_ne_none stop
  refine ⟨h.findSome?_drop.symm, fun completed => absurd completed halted,
    fun i early => h.others i (by omega), ?_⟩
  intro i other late there
  by_cases same : i = k
  · subst same
    obtain rfl : gate = other := Option.some.inj (h.found.symm.trans there)
    exact .inl h.stepped
  · exact .inr ⟨halted, by rw [h.others i same]⟩

theorem Stepped.go_on (h : Stepped gates first k gate before mid none)
    (rest : Ticked gates first (k + 1) mid after fault) :
    Ticked gates first k before after fault := by
  refine ⟨rest.outcome.trans h.findSome?_drop.symm, rest.settled, fun i early => ?_,
    fun i other late there => ?_⟩
  · rw [rest.early i (by omega), h.others i (by omega)]
  · by_cases same : i = k
    · subst same
      obtain rfl : gate = other := Option.some.inj (h.found.symm.trans there)
      rw [rest.early i (by omega)]
      exact .inl h.stepped
    · have later := rest.late i other (by omega) there
      rwa [h.others i same] at later

end Ticks

/-- The turns of the gates from `k` on, where all gates before are settled. -/
theorem Hosts.run_ticks (wired : WellWired gates) (count k : Nat) (turn : Turn)
    (whole : k + count = gates.length) (hosts : Hosts gates first turn.pool)
    (settled : Settled gates first k turn.pool) :
    let (next, fault) := turn.run around ((List.range' k count).map (first + ·))
    Ticked gates first k turn.pool next.pool fault := by
  -- on the gates that are left; those before them stay settled
  induction count generalizing k turn with
  | zero =>
      refine ⟨?_, fun _ => ?_, fun _ _ => rfl, fun i gate late found => ?_⟩
      · rw [List.drop_of_length_le (by omega)]
        rfl
      · rw [← whole]
        exact settled
      · have bound := (List.getElem?_eq_some_iff.mp found).1
        omega
  | succ count ih =>
      have found : gates[k]? = some gates[k] := List.getElem?_eq_getElem (by omega)
      have stepped := hosts.step_stepped around wired settled found
      have settles := (hosts.step_settles around wired settled found).1
      have hosts' := hosts.step around (first + k)
      simp only [List.range'_succ, List.map_cons, Turn.run]
      cases hstep : turn.step around (first + k) with
      | mk mid fault =>
          simp only [hstep] at stepped settles hosts'
          cases fault with
          | some fault => exact stepped.halt
          | none => exact stepped.go_on (ih (k + 1) mid (by omega) hosts' settles)

end Hosting

section Circuits

/-- A circuit whose nodes are the gates of a script, with their positions as ids. -/
structure Circuit.Installed (c : Circuit) (gates : List Gate) (first : Nat) : Prop where
  nodes : c.graph.nodes = (List.range gates.length).map (first + ·)
  index : c.graph.index = (List.range gates.length).map fun i => (i, first + i)
  hosts : Hosts gates first c.pool

theorem Circuit.install_node (c : Circuit) (gates : Array Gate) {i : Nat} {gate : Gate}
    (found : gates.toList[i]? = some gate) :
    (c.install gates).node (c.pool.nodes.size + i) = gate.node c.pool.nodes.size i := by
  have there : gates[i]? = some gate := by rwa [Array.getElem?_toList] at found
  simp only [Circuit.node, Circuit.install, Pool.get, Array.getD_eq_getD_getElem?,
    Array.getElem?_append_right (Nat.le_add_right _ _), Nat.add_sub_cancel_left,
    Array.getElem?_mapIdx, there, Option.map_some, Option.getD_some]

theorem Circuit.install_installed (c : Circuit) (gates : Array Gate) :
    (c.install gates).Installed gates.toList c.pool.nodes.size := by
  refine ⟨rfl, rfl, ?_, ?_⟩
  · simp only [Circuit.install, Array.size_append, Array.size_mapIdx, Array.length_toList]
    exact Nat.le_refl _
  · intro i gate found
    have node := c.install_node gates found
    simp only [Circuit.node] at node
    rw [node]
    exact ⟨rfl, rfl, .refl _, fun _ => rfl⟩

theorem Circuit.install_length (c : Circuit) (gates : Array Gate) :
    (c.install gates).graph.nodes.length = gates.size := by
  rw [(c.install_installed gates).nodes, List.length_map, List.length_range, Array.length_toList]

variable {c : Circuit} {gates : List Gate} {first : Nat}

theorem Circuit.Installed.tick (h : c.Installed gates first) (dt : Float) (controls : Controls) :
    (c.tick dt controls).1.Installed gates first := by
  refine ⟨(c.tick_nodes dt controls).trans h.nodes, (c.tick_index dt controls).trans h.index, ?_⟩
  apply Turn.run_induction { dt, controls } (P := fun next => Hosts gates first next.pool)
  · exact fun turn ref hosts => hosts.step { dt, controls } ref
  · exact h.hosts

/-- A tick of an installed circuit. -/
theorem Circuit.Installed.ticked (h : c.Installed gates first) (wired : WellWired gates)
    (dt : Float) (controls : Controls) :
    let (after, fault) := c.tick dt controls
    Ticked gates first 0 c.pool after.pool fault := by
  have run := Hosts.run_ticks { dt, controls } wired gates.length 0
    { pool := c.pool, generator := c.graph.generator } (Nat.zero_add _) h.hosts
    (fun _ _ early => absurd early (Nat.not_lt_zero _))
  rw [← List.range_eq_range', ← h.nodes] at run
  exact run

/-- All ticks of an installed circuit end alike. -/
theorem Circuit.Installed.tick_fault (h : c.Installed gates first) (wired : WellWired gates)
    (dt : Float) (controls : Controls) :
    (c.tick dt controls).2 = gates.findSome? (Gate.fault (gateValues gates)) :=
  (h.ticked wired dt controls).outcome

theorem Circuit.find_of_lookup {id : Nat} {ref : Ref}
    (found : c.graph.index.lookup id = some ref) : c.find (.int id) = .ok ref := by
  have known : idOfValue? (.int id) = some id := by simp [idOfValue?]
  simp only [Circuit.find, isCompound, Bool.false_eq_true, ↓reduceIte, known, Option.bind_some,
    found]

/-- The node of a gate is found by the position of the gate. -/
theorem Circuit.Installed.find (h : c.Installed gates first) {i : Nat} (bound : i < gates.length) :
    c.find (.int i) = .ok (first + i) := by
  have nodup : (c.graph.index.map Prod.fst).Nodup := by
    rw [h.index, List.map_map]
    exact (List.map_id _).symm ▸ List.nodup_range
  have mem : (i, first + i) ∈ c.graph.index := by
    rw [h.index]
    exact List.mem_map.mpr ⟨i, List.mem_range.mpr bound, rfl⟩
  exact Circuit.find_of_lookup (lookup_of_mem nodup mem)

end Circuits

end SignalGraph
