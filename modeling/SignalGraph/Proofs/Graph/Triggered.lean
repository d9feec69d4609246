import SignalGraph.Proofs.Graph.Compiled

/-!
Sinks of a compiled script. The calls of the script and the sinks of the circuit stand in the same
order. A trigger does not change from tick to tick, so a beep that sounds does so in the first tick
only, and a screen draws in every tick or in none.
-/

namespace SignalGraph

open Script

section Sinks

/-- The sinks of a circuit in the order of their turns. -/
def Circuit.sinkRefs (c : Circuit) : List Ref :=
  c.graph.nodes.filter fun ref => (c.node ref).body.isSink

/-- Whether a node is a beep that sounds. -/
def Circuit.plays (c : Circuit) (ref : Ref) : Prop :=
  ∃ beep, (c.node ref).body = .beep beep ∧ beep.shouldPlay = true

/-- A screen has taken its turn between two moments, and its signal to draw was high or low. -/
def Circuit.Draws (before after : Circuit) (ref : Ref) (high : Bool) : Prop :=
  ∃ screen, (before.node ref).body = .screen screen ∧
    (after.node ref).body = .screen (screen.step (after.pool.inputs (after.node ref))).1 ∧
    isHigh ((after.pool.inputs (after.node ref)).level 5) = high

theorem Body.Keeps.isSink {before after : Body} (h : before.Keeps after) :
    after.isSink = before.isSink := by
  simp only [Body.isSink, h.kind]

variable {c : Circuit} {gates : List Gate} {first : Nat}

/-- The sinks of an installed circuit are those among its gates. -/
theorem Circuit.Installed.sinkRefs (h : c.Installed gates first) :
    c.sinkRefs = (sinksOf gates).map fun entry => first + entry.2 := by
  have positions : List.range gates.length = gates.zipIdx.map Prod.snd := by
    rw [List.zipIdx_map_snd, List.range_eq_range']
  simp only [Circuit.sinkRefs, h.nodes, positions, List.map_map, List.filter_map, sinksOf]
  congr 1
  apply List.filter_congr
  rintro ⟨gate, i⟩ mem
  have found : gates[i]? = some gate := List.mem_zipIdx_iff_getElem?.mp mem
  exact (h.hosts.hosted i gate found).keeps.isSink

/-- In a tick that completes, a sink steps at the inputs of its call. -/
theorem Circuit.Installed.sink_steps (h : c.Installed gates first) (wired : WellWired gates)
    {dt : Float} {controls : Controls} (completes : (c.tick dt controls).2 = none) {call : Call}
    {gate : Gate} {i : Nat} (realizes : Realizes gates call (gate, i)) :
    Body.StepsTo call.inputs (c.node (first + i)).body
      ((c.tick dt controls).1.node (first + i)).body := by
  obtain ⟨found, -, inputs⟩ := realizes
  rw [← inputs]
  rcases (h.ticked wired dt controls).late i gate (Nat.zero_le _) found with steps | ⟨halted, -⟩
  · exact steps
  · exact absurd completes halted

/-- After a tick that completes, the inlets of a sink still show what it has seen. -/
theorem Circuit.Installed.sink_inputs (h : c.Installed gates first) (wired : WellWired gates)
    {dt : Float} {controls : Controls} (completes : (c.tick dt controls).2 = none) {call : Call}
    {gate : Gate} {i : Nat} (realizes : Realizes gates call (gate, i)) :
    let after := (c.tick dt controls).1
    after.pool.inputs (after.node (first + i)) = call.inputs := by
  obtain ⟨found, -, inputs⟩ := realizes
  have bound := (List.getElem?_eq_some_iff.mp found).1
  have settled := (h.ticked wired dt controls).settled completes
  rw [← inputs]
  exact (h.tick dt controls).hosts.inputs wired settled (Nat.le_of_lt bound) found

end Sinks

section Beeps

theorem Body.StepsTo.beep {inputs : Inputs} {before : Beep} {after : Body}
    (h : Body.StepsTo inputs (.beep before) after) : after = .beep (before.step inputs) := by
  obtain ⟨around, id, generator, rfl⟩ := h
  rfl

theorem Body.StepsTo.screen {inputs : Inputs} {before : Screen} {after : Body}
    (h : Body.StepsTo inputs (.screen before) after) : after = .screen (before.step inputs).1 := by
  obtain ⟨around, id, generator, rfl⟩ := h
  rfl

/-- A beep remembers the level of its trigger. -/
theorem Beep.step_wasHigh (beep : Beep) (inputs : Inputs) :
    (beep.step inputs).wasHigh = isHigh (inputs.level 0) := by
  simp only [Beep.step]
  split <;> rfl

/-- A beep sounds when its trigger is high and was not. -/
theorem Beep.step_shouldPlay (beep : Beep) (inputs : Inputs) :
    (beep.step inputs).shouldPlay = (isHigh (inputs.level 0) && !beep.wasHigh) := by
  simp only [Beep.step]
  split
  · rename_i rises
    exact rises.symm
  · rename_i stays
    exact (Bool.eq_false_iff.mpr stays).symm

/-- The beep of a call, and the level of its trigger that it remembers. -/
def Circuit.Remembers (c : Circuit) (ref : Ref) (high : Bool) : Prop :=
  ∃ beep, (c.node ref).body = .beep beep ∧ beep.wasHigh = high

variable {c : Circuit} {gates : List Gate} {first : Nat}

/-- Once a beep remembers the level of its trigger, it does so for good. -/
theorem Circuit.Installed.remembers_tick (h : c.Installed gates first) (wired : WellWired gates)
    {call : Call} {gate : Gate} {i : Nat} (realizes : Realizes gates call (gate, i))
    (isBeep : call.sink = .beep) (remembers : c.Remembers (first + i) call.passes) (dt : Float)
    (controls : Controls) : (c.tick dt controls).1.Remembers (first + i) call.passes := by
  obtain ⟨found, -, inputs⟩ := realizes
  obtain ⟨beep, body, wasHigh⟩ := remembers
  have late := (h.ticked wired dt controls).late i gate (Nat.zero_le _) found
  simp only [Circuit.node] at body
  rw [inputs, body] at late
  rcases late with steps | ⟨-, same⟩
  · refine ⟨_, steps.beep, ?_⟩
    rw [Beep.step_wasHigh, call.beep_trigger isBeep, call.isHigh_trigger]
  · exact ⟨beep, same, wasHigh⟩

theorem Circuit.Installed.remembers_ticks (h : c.Installed gates first) (wired : WellWired gates)
    {call : Call} {gate : Gate} {i : Nat} (realizes : Realizes gates call (gate, i))
    (isBeep : call.sink = .beep) (remembers : c.Remembers (first + i) call.passes)
    (history : List (Float × Controls)) :
    (c.ticks history).Remembers (first + i) call.passes := by
  induction history generalizing c with
  | nil => exact remembers
  | cons tick history ih =>
      exact ih (h.tick tick.1 tick.2)
        (h.remembers_tick wired realizes isBeep remembers tick.1 tick.2)

/-- The first tick of a beep: it sounds if its call is let through, and remembers that. -/
theorem Circuit.Installed.beep_first (h : c.Installed gates first) (wired : WellWired gates)
    {call : Call} {gate : Gate} {i : Nat} (realizes : Realizes gates call (gate, i))
    (isBeep : call.sink = .beep) (start : (c.node (first + i)).body = call.sink.body) {dt : Float}
    {controls : Controls} (completes : (c.tick dt controls).2 = none) :
    ((c.tick dt controls).1.plays (first + i) ↔ call.passes) ∧
      (c.tick dt controls).1.Remembers (first + i) call.passes := by
  have steps := h.sink_steps wired completes realizes
  rw [start, isBeep] at steps
  have after := steps.beep
  have trigger := call.isHigh_trigger
  constructor
  · constructor
    · rintro ⟨beep, body, plays⟩
      obtain rfl := Body.beep.inj (after.symm.trans body)
      rw [Beep.step_shouldPlay, call.beep_trigger isBeep, trigger, Bool.and_eq_true] at plays
      exact plays.1
    · intro passes
      refine ⟨_, after, ?_⟩
      rw [Beep.step_shouldPlay, call.beep_trigger isBeep, trigger, passes]
      rfl
  · refine ⟨_, after, ?_⟩
    rw [Beep.step_wasHigh, call.beep_trigger isBeep, trigger]

/-- A beep that remembers the level of its trigger does not sound in a tick that completes. -/
theorem Circuit.Installed.beep_later (h : c.Installed gates first) (wired : WellWired gates)
    {call : Call} {gate : Gate} {i : Nat} (realizes : Realizes gates call (gate, i))
    (isBeep : call.sink = .beep) (remembers : c.Remembers (first + i) call.passes) {dt : Float}
    {controls : Controls} (completes : (c.tick dt controls).2 = none) :
    ¬ (c.tick dt controls).1.plays (first + i) := by
  obtain ⟨beep, body, wasHigh⟩ := remembers
  have steps := h.sink_steps wired completes realizes
  rw [body] at steps
  rintro ⟨after, hafter, plays⟩
  obtain rfl := Body.beep.inj (steps.beep.symm.trans hafter)
  rw [Beep.step_shouldPlay, call.beep_trigger isBeep, call.isHigh_trigger, wasHigh,
    Bool.and_not_self] at plays
  cases plays

/-- In every tick that completes, a screen draws if its call is let through. -/
theorem Circuit.Installed.screen_draws (h : c.Installed gates first) (wired : WellWired gates)
    {call : Call} {gate : Gate} {i : Nat} (realizes : Realizes gates call (gate, i))
    (isScreen : call.sink = .screen) (few : call.args.length < 6) {dt : Float}
    {controls : Controls} (completes : (c.tick dt controls).2 = none) :
    c.Draws (c.tick dt controls).1 (first + i) call.passes := by
  have kind : (c.node (first + i)).body.kind = gate.body.kind :=
    (h.hosts.hosted i gate realizes.1).keeps.kind
  rw [realizes.2.1, isScreen] at kind
  obtain ⟨screen, body⟩ := Body.kind_eq_screen.mp kind
  have steps := h.sink_steps wired completes realizes
  rw [body] at steps
  have seen := h.sink_inputs wired completes realizes
  refine ⟨screen, body, ?_, ?_⟩
  · rw [seen]
    exact steps.screen
  · rw [seen, call.screen_trigger isScreen few, call.isHigh_trigger]

end Beeps

section Calls

/-- How the sink of a call behaves, given the circuit before and after its first tick. A beep sounds
in the first tick or never, and a screen draws in every tick or in none. -/
structure Answers (compiled start : Circuit) (call : Call) (ref : Ref) : Prop where
  body : (compiled.node ref).body = call.sink.body
  first : call.sink = .beep → (start.plays ref ↔ call.passes)
  later : call.sink = .beep → ∀ history dt controls,
    ¬ ((start.ticks history).tick dt controls).1.plays ref
  draws : call.sink = .screen → call.args.length < 6 → ∀ history dt controls,
    (compiled.ticks history).Draws ((compiled.ticks history).tick dt controls).1 ref call.passes

/-- Installed gates answer the calls that they stand for. -/
theorem Circuit.install_answers (c : Circuit) {s : Assembly} {env : Env} {calls : List Call}
    (ran : Ran {} s env calls) (dt : Float) (controls : Controls)
    (completes : ((c.install s.gates).tick dt controls).2 = none) :
    List.Forall₂ (Answers (c.install s.gates) ((c.install s.gates).tick dt controls).1) calls
      (c.install s.gates).sinkRefs := by
  have wired := ran.valid.wired
  have installed := c.install_installed s.gates
  rw [installed.sinkRefs, List.forall₂_map_right_iff]
  refine ran.realized.imp ?_
  rintro call ⟨gate, i⟩ realizes
  have started := installed.tick dt controls
  -- the faults of a tick depend on the gates alone, so all later ticks complete too
  have complete : ∀ history dt controls,
      (((c.install s.gates).ticks history).tick dt controls).2 = none := by
    intro history dt' controls'
    rw [(installed.ticks history).tick_fault wired, ← installed.tick_fault wired dt controls]
    exact completes
  have body : ((c.install s.gates).node (c.pool.nodes.size + i)).body = call.sink.body := by
    rw [c.install_node s.gates realizes.1]
    exact realizes.2.1
  refine ⟨body, fun beep => ?_, fun beep history dt' controls' => ?_,
    fun screen few history dt' controls' => ?_⟩
  · exact (installed.beep_first wired realizes beep body completes).1
  · have remembers := (installed.beep_first wired realizes beep body completes).2
    exact (started.ticks history).beep_later wired realizes beep
      (started.remembers_ticks wired realizes beep remembers history)
      (complete ((dt, controls) :: history) dt' controls')
  · exact (installed.ticks history).screen_draws wired realizes screen few
      (complete history dt' controls')

/-- The sinks of an accepted script whose first tick completes answer its calls in order. A trigger
lets a call through like the selection of an assignment does, unless the call stands under a single
condition that is above zero without holding, or that holds without being above zero. -/
theorem Circuit.compile_answers_calls (c : Circuit) (mode : CompileMode) (source : String)
    (accepted : (c.compile mode source).2.fault = none) (dt : Float) (controls : Controls)
    (completes : ((c.compile mode source).1.tick dt controls).2 = none) :
    let compiled := (c.compile mode source).1
    let start := (compiled.tick dt controls).1
    ∃ script, (∀ other, Written (tokens source) other ↔ other = script) ∧
      List.Forall₂ (Answers compiled start) (calls script) compiled.sinkRefs ∧
      ∀ call ∈ calls script, (call.passes = call.conditions.all holds ↔
        ∀ condition, call.conditions = [condition] → (0.0 < condition ↔ holds condition)) := by
  obtain ⟨script, assembly, written, ran, -, compiled⟩ :=
    c.compile_installs mode source accepted
  have answers : List.Forall₂
      (Answers (c.compile mode source).1 ((c.compile mode source).1.tick dt controls).1)
      (calls script) (c.compile mode source).1.sinkRefs := by
    rw [compiled] at completes ⊢
    exact c.install_answers ran dt controls completes
  exact ⟨script, fun other => ⟨fun h => h.unique written, fun h => h ▸ written⟩, answers,
    fun call _ => call.passes_eq_holds_iff⟩

/-- Under a negative condition the assignment is made, but neither sink is triggered. -/
theorem Circuit.compile_answers_calls_negative :
    let source := "x = 0; if (0 - 1) { x = 1; beep(x); screen(1, 1); }"
    let compiled := ((Circuit.ofSeed 0).compile .atomic source).1
    let start := (compiled.tick 0.5 .idle).1
    ∃ script, (∀ other, Written (tokens source) other ↔ other = script) ∧
      List.Forall₂ (Answers compiled start) (calls script) compiled.sinkRefs ∧
      ∀ call ∈ calls script, (call.passes = call.conditions.all holds ↔
        ∀ condition, call.conditions = [condition] → (0.0 < condition ↔ holds condition)) :=
  Circuit.compile_answers_calls (.ofSeed 0) .atomic _ (by decide +kernel) 0.5 .idle
    (by decide +kernel)

end Calls

end SignalGraph
