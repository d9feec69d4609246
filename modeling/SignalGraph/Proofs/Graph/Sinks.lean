import SignalGraph.Proofs.Graph.Triggered
import SignalGraph.Proofs.Script.Surplus

/-!
What the sinks of a compiled script are told. In ticks that complete a sink steps at the same inputs
over and over, so its state follows from its call and the number of the ticks alone. Two scripts
that differ only in what no sink takes have sinks in equal states throughout.
-/

namespace SignalGraph

open Script

section States

/-- What a turn at some inputs makes of a sink. -/
def Body.told (inputs : Inputs) : Body → Body
  | .beep before => .beep (before.step inputs)
  | .color .. =>
      .color (clamp 0.0 1.0 (inputs.level 0)) (clamp 0.0 1.0 (inputs.level 1))
        (clamp 0.0 1.0 (inputs.level 2))
  | .screen before => .screen (before.step inputs).1
  | body => body

theorem Body.StepsTo.told {inputs : Inputs} {before after : Body}
    (h : Body.StepsTo inputs before after) (sink : before.isSink) :
    after = before.told inputs := by
  obtain ⟨around, id, generator, rfl⟩ := h
  cases before <;> first | rfl | cases sink

theorem Body.told_kind (inputs : Inputs) (body : Body) : (body.told inputs).kind = body.kind := by
  cases body <;> rfl

/-- The sink of a call after a number of ticks that completed. -/
def Script.Call.sinkAfter (call : Call) : Nat → Body
  | 0 => call.sink.body
  | count + 1 => (call.sinkAfter count).told call.inputs

variable (call : Call) (count : Nat)

theorem Script.Call.sinkAfter_kind : (call.sinkAfter count).kind = call.sink.body.kind := by
  induction count with
  | zero => rfl
  | succ count ih => exact (Body.told_kind _ _).trans ih

theorem Script.Call.sinkAfter_isSink : (call.sinkAfter count).isSink := by
  rw [Body.isSink, call.sinkAfter_kind]
  exact call.sink.body_isSink

/-- Surplus arguments leave no trace in a sink. -/
theorem Script.Call.sinkAfter_trim : call.trim.sinkAfter count = call.sinkAfter count := by
  induction count with
  | zero => rfl
  | succ count ih => rw [sinkAfter, sinkAfter, ih, call.trim_inputs]

/-- The color of a call is what its arguments say from the first tick on. -/
theorem Script.Call.sinkAfter_color (color : call.sink = .color) :
    call.sinkAfter (count + 1) =
      .color (clamp 0.0 1.0 (call.level 0)) (clamp 0.0 1.0 (call.level 1))
        (clamp 0.0 1.0 (call.level 2)) := by
  have kind := call.sinkAfter_kind count
  have reads : ∀ slot < 3, call.inputs.level slot = call.level slot :=
    fun slot taken => call.inputs_level color slot taken nofun
  rw [color] at kind
  obtain ⟨_, _, _, hbody⟩ := Body.kind_eq_color.mp kind
  rw [sinkAfter, hbody, Body.told, reads 0 (by omega), reads 1 (by omega), reads 2 (by omega)]

theorem Script.Call.sinkAfter_screen (screen : call.sink = .screen) :
    ∃ shown, call.sinkAfter count = .screen shown := by
  have kind := call.sinkAfter_kind count
  rw [screen] at kind
  exact Body.kind_eq_screen.mp kind

end States

section Beeps

/-- A beep has the pitch and the volume of some inputs. The volume is one where none is given. -/
def Beep.Tuned (inputs : Inputs) (beep : Beep) : Prop :=
  beep.pitch = clamp (-1.0) 1.0 (inputs.level 1) ∧
    beep.volume = (inputs.getD 2 none).elim 1.0 (clamp 0.0 1.0)

/-- A beep that sounds takes its pitch and volume from its inputs. -/
theorem Beep.step_tuned_of_plays {beep : Beep} {inputs : Inputs}
    (plays : (beep.step inputs).shouldPlay = true) : (beep.step inputs).Tuned inputs := by
  have rises : (isHigh (inputs.level 0) && !beep.wasHigh) = true := by
    rw [← Beep.step_shouldPlay, plays]
  simp only [Beep.step, rises, ↓reduceIte]
  have volume : ∀ given : Option Float,
      (if given.isSome then clamp 0.0 1.0 (given.getD 0.0) else 1.0) =
        given.elim 1.0 (clamp 0.0 1.0) := by
    intro given
    cases given <;> rfl
  exact ⟨rfl, volume (inputs.getD 2 none)⟩

/-- A beep that does not sound keeps the pitch and the volume it had. -/
theorem Beep.step_tuned {beep : Beep} {inputs : Inputs} (tuned : beep.Tuned inputs) :
    (beep.step inputs).Tuned inputs := by
  by_cases plays : (beep.step inputs).shouldPlay = true
  · exact Beep.step_tuned_of_plays plays
  · rw [Beep.step_shouldPlay] at plays
    simp only [Beep.step, plays]
    exact tuned

/-- The sink of a call after some ticks is a beep that sounds. -/
def Script.Call.PlaysAfter (call : Call) (count : Nat) : Prop :=
  ∃ beep, call.sinkAfter count = .beep beep ∧ beep.shouldPlay = true

/-- Once it has sounded, the beep of a call is tuned for good. -/
theorem Script.Call.sinkAfter_beep (call : Call) (isBeep : call.sink = .beep) (count : Nat) :
    ∃ beep, call.sinkAfter count = .beep beep ∧
      ((∃ earlier ≤ count, call.PlaysAfter earlier) → beep.Tuned call.inputs) := by
  induction count with
  | zero =>
      refine ⟨_, by rw [sinkAfter, isBeep]; rfl, ?_⟩
      rintro ⟨earlier, bound, beep, body, plays⟩
      obtain rfl := Nat.le_zero.mp bound
      rw [sinkAfter, isBeep] at body
      obtain rfl := Body.beep.inj body
      cases plays
  | succ count ih =>
      obtain ⟨before, hbefore, tuned⟩ := ih
      have after : call.sinkAfter (count + 1) = .beep (before.step call.inputs) := by
        rw [sinkAfter, hbefore]
        rfl
      refine ⟨_, after, ?_⟩
      rintro ⟨earlier, bound, sounds⟩
      -- it sounds in this tick, or it did before and has been tuned since
      rcases Nat.le_succ_iff.mp bound with before | same
      · exact Beep.step_tuned (tuned ⟨earlier, before, sounds⟩)
      · subst same
        obtain ⟨beep, body, plays⟩ := sounds
        obtain rfl := Body.beep.inj (after.symm.trans body)
        exact Beep.step_tuned_of_plays plays

end Beeps

section Circuits

/-- Ticks fail only by a sink, whatever its state is. -/
theorem Script.WellWired.fault_eq_none_iff {gates : List Gate} (wired : WellWired gates) :
    gates.findSome? (Gate.fault (gateValues gates)) = none ↔
      ∀ entry ∈ sinksOf gates, entry.1.fault (gateValues gates) = none := by
  rw [List.findSome?_eq_none_iff]
  constructor
  · rintro clean ⟨gate, i⟩ mem
    have found := List.mem_zipIdx_iff_getElem?.mp (List.mem_of_mem_filter mem)
    exact clean gate (List.mem_of_getElem? found)
  · intro clean gate mem
    obtain ⟨i, found⟩ := List.getElem?_of_mem mem
    rcases (wired i gate found).body with pure | ⟨sink, body⟩
    · exact Body.faultAt_of_isPure pure _
    · have isSink : gate.body.isSink := body ▸ sink.body_isSink
      exact clean (gate, i) (List.mem_filter.mpr ⟨List.mem_zipIdx_iff_getElem?.mpr found, isSink⟩)

/-- The states of all sinks of a circuit. -/
def Circuit.sinkBodies (c : Circuit) : List Body := c.sinkRefs.map fun ref => (c.node ref).body

/-- The fault of the sink of a call, in every tick. -/
def Script.Call.fault (call : Call) : Option StepFault := call.sink.body.faultAt call.inputs

variable (c : Circuit) {s : Assembly} {env : Env} {calls : List Call} (ran : Ran {} s env calls)

include ran

/-- The sinks of installed gates are those of the calls, in order. -/
theorem Circuit.install_realizes :
    List.Forall₂ (fun call ref => ∃ gate i, ref = c.pool.nodes.size + i ∧
      Realizes s.gates.toList call (gate, i)) calls (c.install s.gates).sinkRefs := by
  rw [(c.install_installed s.gates).sinkRefs, List.forall₂_map_right_iff]
  exact ran.realized.imp fun call entry realizes => ⟨entry.1, entry.2, rfl, realizes⟩

/-- All ticks complete, or none does: it depends on the calls alone. -/
theorem Circuit.install_completes_iff (history : List (Float × Controls)) (dt : Float)
    (controls : Controls) :
    (((c.install s.gates).ticks history).tick dt controls).2 = none ↔
      ∀ call ∈ calls, call.fault = none := by
  have installed := (c.install_installed s.gates).ticks history
  have faults : calls.map Call.fault =
      (sinksOf s.gates.toList).map fun entry => entry.1.fault (gateValues s.gates.toList) := by
    rw [map_eq_map_iff_forall₂]
    refine ran.realized.imp fun call entry realizes => ?_
    rw [Call.fault, Gate.fault, realizes.2.1, realizes.2.2]
  rw [installed.tick_fault ran.valid.wired, ran.valid.wired.fault_eq_none_iff]
  rw [← List.forall_mem_map (P := (· = none)), ← faults, List.forall_mem_map]

/-- After ticks that complete, the state of a sink is what its call makes of it. -/
theorem Circuit.install_sinkAfter (clean : ∀ call ∈ calls, call.fault = none) {call : Call}
    {gate : Gate} {i : Nat} (realizes : Realizes s.gates.toList call (gate, i))
    (history : List (Float × Controls)) :
    (((c.install s.gates).ticks history).node (c.pool.nodes.size + i)).body =
      call.sinkAfter history.length := by
  induction history using List.reverseRecOn with
  | nil => exact (congrArg Node.body (c.install_node s.gates realizes.1)).trans realizes.2.1
  | append_singleton history tick ih =>
      have installed := (c.install_installed s.gates).ticks history
      have completes := (c.install_completes_iff ran history tick.1 tick.2).mpr clean
      have steps := installed.sink_steps ran.valid.wired completes realizes
      rw [ih] at steps
      rw [Circuit.ticks_concat, List.length_append, steps.told (call.sinkAfter_isSink _)]
      rfl

theorem Circuit.install_sinkBodies (clean : ∀ call ∈ calls, call.fault = none)
    (history : List (Float × Controls)) :
    ((c.install s.gates).ticks history).sinkBodies =
      calls.map fun call => call.sinkAfter history.length := by
  have installed := c.install_installed s.gates
  have refs := (installed.ticks history).sinkRefs.trans installed.sinkRefs.symm
  rw [Circuit.sinkBodies, refs, eq_comm, map_eq_map_iff_forall₂]
  refine (c.install_realizes ran).imp ?_
  rintro call ref ⟨gate, i, rfl, realizes⟩
  exact (c.install_sinkAfter ran clean realizes history).symm

end Circuits

section Presenting

/-- What a node of a circuit sees at its inlets. -/
def Circuit.seenBy (c : Circuit) (ref : Ref) : Inputs := c.pool.inputs (c.node ref)

/-- A beep has sounded in one of some ticks. -/
def Circuit.HasPlayed (c : Circuit) (history : List (Float × Controls)) (ref : Ref) : Prop :=
  ∃ earlier, earlier <+: history ∧ (c.ticks earlier).plays ref

/-- How the sink of a call stands after one more tick. A color shows the first three arguments. A
beep that has sounded has its pitch and its volume from the first two. A screen has taken its
arguments in the order of its inlets, the last two of them, to draw and to clear, only where six or
more are given. What is missing reads as zero, but a volume as one. -/
structure Presents (compiled : Circuit) (history : List (Float × Controls))
    (tick : Float × Controls) (call : Call) (ref : Ref) : Prop where
  color : call.sink = .color →
    ((compiled.ticks (history ++ [tick])).node ref).body =
      .color (clamp 0.0 1.0 (call.level 0)) (clamp 0.0 1.0 (call.level 1))
        (clamp 0.0 1.0 (call.level 2))
  beep : call.sink = .beep → ∃ beep,
    ((compiled.ticks (history ++ [tick])).node ref).body = .beep beep ∧
      (compiled.HasPlayed (history ++ [tick]) ref →
        beep.pitch = clamp (-1.0) 1.0 (call.level 0) ∧
          beep.volume = (call.args[1]?).elim 1.0 (clamp 0.0 1.0))
  screen : call.sink = .screen → ∃ screen,
    let after := compiled.ticks (history ++ [tick])
    ((compiled.ticks history).node ref).body = .screen screen ∧
      (after.node ref).body = .screen (screen.step (after.seenBy ref)).1 ∧
      (∀ slot < 5, (after.seenBy ref).level slot = call.level slot) ∧
      (6 ≤ call.args.length →
        (after.seenBy ref).level 5 = call.level 5 ∧ (after.seenBy ref).level 6 = call.level 6)

/-- Two circuits have sinks that cannot be told apart: in every run the same ticks complete, and
after each of them the sinks of both are in equal states, one by one. -/
structure Circuit.SinksAlike (one other : Circuit) : Prop where
  completes : ∀ history dt controls,
    ((one.ticks history).tick dt controls).2 = none ↔
      ((other.ticks history).tick dt controls).2 = none
  bodies : ∀ history dt controls, ((one.ticks history).tick dt controls).2 = none →
    (one.ticks (history ++ [(dt, controls)])).sinkBodies =
      (other.ticks (history ++ [(dt, controls)])).sinkBodies

variable (c : Circuit) {s : Assembly} {env : Env} {calls : List Call} (ran : Ran {} s env calls)

include ran

theorem Circuit.install_presents (clean : ∀ call ∈ calls, call.fault = none)
    (history : List (Float × Controls)) (tick : Float × Controls) :
    List.Forall₂ (Presents (c.install s.gates) history tick) calls
      (c.install s.gates).sinkRefs := by
  refine (c.install_realizes ran).imp ?_
  rintro call ref ⟨gate, i, rfl, realizes⟩
  have stands := fun history => c.install_sinkAfter ran clean realizes history
  have now := stands (history ++ [tick])
  rw [List.length_append] at now
  refine ⟨fun color => ?_, fun isBeep => ?_, fun screen => ?_⟩
  · exact now.trans (call.sinkAfter_color _ color)
  · obtain ⟨beep, body, tuned⟩ := call.sinkAfter_beep isBeep (history.length + 1)
    have pitch : call.inputs.level 1 = call.level 0 :=
      call.inputs_level isBeep 0 (by decide) nofun
    have volume : call.inputs.getD 2 none = call.args[1]? :=
      call.inputs_getD isBeep 1 (by decide) nofun
    refine ⟨beep, now.trans body, ?_⟩
    rintro ⟨earlier, before, sounding, there, plays⟩
    rw [stands earlier] at there
    have bound : earlier.length ≤ history.length + 1 := by
      simpa using before.length_le
    rw [← pitch, ← volume]
    exact tuned ⟨earlier.length, bound, sounding, there, plays⟩
  · obtain ⟨shown, body⟩ := call.sinkAfter_screen history.length screen
    have completes := (c.install_completes_iff ran history tick.1 tick.2).mpr clean
    have seen : ((c.install s.gates).ticks (history ++ [tick])).seenBy (c.pool.nodes.size + i) =
        call.inputs := by
      rw [Circuit.ticks_concat]
      exact ((c.install_installed s.gates).ticks history).sink_inputs ran.valid.wired completes
        realizes
    refine ⟨shown, (stands history).trans body, ?_, ?_, ?_⟩
    · rw [now, seen, List.length_singleton, Call.sinkAfter, body]
      rfl
    · intro slot taken
      rw [seen]
      exact call.inputs_level screen slot (Nat.lt_trans taken (by decide)) (fun _ same => by omega)
    · intro given
      rw [seen]
      exact ⟨call.inputs_level screen 5 (by decide) fun _ _ => given,
        call.inputs_level screen 6 (by decide) nofun⟩

/-- Installed gates whose calls are equal without their surplus arguments. -/
theorem Circuit.install_sinksAlike (d : Circuit) {t : Assembly} {env' : Env} {others : List Call}
    (ran' : Ran {} t env' others) (same : calls.map Call.trim = others.map Call.trim) :
    (c.install s.gates).SinksAlike (d.install t.gates) := by
  have faults : calls.map Call.fault = others.map Call.fault :=
    map_eq_of_trim (fun call => by rw [Call.fault, call.trim_inputs]; rfl) same
  have clean_iff : (∀ call ∈ calls, call.fault = none) ↔ ∀ call ∈ others, call.fault = none := by
    rw [← List.forall_mem_map (P := (· = none)), faults, List.forall_mem_map]
  constructor
  · intro history dt controls
    rw [c.install_completes_iff ran, d.install_completes_iff ran', clean_iff]
  · intro history dt controls completes
    have clean := (c.install_completes_iff ran history dt controls).mp completes
    rw [c.install_sinkBodies ran clean, d.install_sinkBodies ran' (clean_iff.mp clean)]
    exact map_eq_of_trim (fun call => call.sinkAfter_trim _) same

end Presenting

section Calls

/-- The sinks of an accepted script are those of its calls, in order. After every tick that
completes each shows the values of its arguments, and what no sink takes makes no difference: any
other accepted script that makes the same calls, apart from surplus arguments and from calls of
names that are no sinks, has sinks that cannot be told apart from these. -/
theorem Circuit.compile_presents_calls (c : Circuit) (mode : CompileMode) (source : String)
    (accepted : (c.compile mode source).2.fault = none) :
    let compiled := (c.compile mode source).1
    ∃ script, (∀ other, Written (tokens source) other ↔ other = script) ∧
      List.Forall₂ (fun call ref => (compiled.node ref).body = call.sink.body) (calls script)
        compiled.sinkRefs ∧
      (∀ history tick, ((compiled.ticks history).tick tick.1 tick.2).2 = none →
        List.Forall₂ (Presents compiled history tick) (calls script) compiled.sinkRefs) ∧
      ∀ (d : Circuit) (mode' : CompileMode) (source' : String) (other : List Stmt),
        (d.compile mode' source').2.fault = none → Written (tokens source') other →
        calls (trimBody other) = calls (trimBody script) →
        compiled.SinksAlike (d.compile mode' source').1 := by
  obtain ⟨script, assembly, written, ran, -, compiled⟩ := c.compile_installs mode source accepted
  refine ⟨script, fun other => ⟨fun h => h.unique written, fun h => h ▸ written⟩, ?_⟩
  rw [compiled]
  refine ⟨?_, ?_, ?_⟩
  · refine (c.install_realizes ran).imp ?_
    rintro call ref ⟨gate, i, rfl, realizes⟩
    rw [c.install_node assembly.gates realizes.1]
    exact realizes.2.1
  · intro history tick completes
    have clean := (c.install_completes_iff ran history tick.1 tick.2).mp completes
    exact c.install_presents ran clean history tick
  · intro d mode' source' other accepted' written' same
    obtain ⟨script', assembly', read, ran', -, compiled'⟩ :=
      d.compile_installs mode' source' accepted'
    obtain rfl := read.unique written'
    rw [calls_trim, calls_trim] at same
    rw [compiled']
    exact c.install_sinksAlike ran d ran' same.symm

/-- A missing argument, a surplus one, and a name that is no sink in a block that is not taken. -/
theorem Circuit.compile_presents_calls_nested :
    let source :=
      "x = 2; beep(x); if (x) { new ColorNode(1, 0, 1, 9); if (0) { boom(); screen(1, x); } }"
    let c := Circuit.ofSeed 0
    let compiled := (c.compile .atomic source).1
    (c.compile .atomic source).2.fault = none ∧ (compiled.tick 0.5 .idle).2 = none ∧
    ∃ script, (∀ other, Written (tokens source) other ↔ other = script) ∧
      List.Forall₂ (fun call ref => (compiled.node ref).body = call.sink.body) (calls script)
        compiled.sinkRefs ∧
      (∀ history tick, ((compiled.ticks history).tick tick.1 tick.2).2 = none →
        List.Forall₂ (Presents compiled history tick) (calls script) compiled.sinkRefs) ∧
      ∀ (d : Circuit) (mode' : CompileMode) (source' : String) (other : List Stmt),
        (d.compile mode' source').2.fault = none → Written (tokens source') other →
        calls (trimBody other) = calls (trimBody script) →
        compiled.SinksAlike (d.compile mode' source').1 := by
  intro source c compiled
  have accepted : (c.compile .atomic source).2.fault = none := by decide +kernel
  exact ⟨accepted, by decide +kernel, Circuit.compile_presents_calls c .atomic source accepted⟩

end Calls

end SignalGraph
