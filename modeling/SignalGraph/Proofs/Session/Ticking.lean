import SignalGraph.Proofs.Decimal.Bits
import SignalGraph.Proofs.Graph.Sweep
import SignalGraph.Proofs.Session.Bodies

/-!
Answers to requests for a tick. Whatever numbers meet in a session whose messages give texts for
texts, only one thing keeps a tick from being completed: a screen that is told to draw where a
coordinate is infinite or no number. In all other ticks every node takes its turn once.
-/

namespace SignalGraph

section Faults

/-- A signal to draw at a point that is not there: a coordinate is infinite or no number. -/
def Inputs.strays (inputs : Inputs) : Bool :=
  isHigh (inputs.level 5) && !((inputs.level 0).isFinite && (inputs.level 1).isFinite)

theorem truncate_isOk (x : Float) : (truncate x).isOk = x.isFinite := by
  have whole := Decimal.truncate?_isSome_iff x
  simp only [truncate]
  cases htruncate : Decimal.truncate? x with
  | none =>
      rw [htruncate] at whole
      exact (Bool.eq_false_iff.mpr fun finite => nomatch whole.mpr finite).symm
  | some n =>
      rw [htruncate] at whole
      exact (whole.mp rfl).symm

theorem Screen.step_fault_eq_none (screen : Screen) (inputs : Inputs) :
    (screen.step inputs).2 = none ↔ inputs.strays = false := by
  have column := truncate_isOk (inputs.level 0)
  have row := truncate_isOk (inputs.level 1)
  simp only [Screen.step, Inputs.strays, ← column, ← row]
  cases isHigh (inputs.level 5) with
  | false => exact iff_of_true rfl rfl
  | true =>
      cases truncate (inputs.level 0) <;> cases truncate (inputs.level 1) <;>
        simp [Except.isOk, Except.toBool]

/-- The step of a body with texts fails only at a screen that strays. -/
theorem Body.step_fault_eq_none {body : Body} (texts : body.hasTexts) (around : Surroundings)
    (id : Int) (inputs : Inputs) (generator : Random.Generator) :
    (body.step around id inputs generator).fault = none ↔
      ∀ screen, body = .screen screen → inputs.strays = false := by
  cases body with
  | key v =>
      cases v with
      | text name => exact iff_of_true rfl fun _ same => nomatch same
      | _ => cases texts
  | screen screen =>
      refine (screen.step_fault_eq_none inputs).trans ⟨fun stays _ _ => stays, fun h => ?_⟩
      exact h screen rfl
  | _ => exact iff_of_true rfl fun _ same => nomatch same

end Faults

section Circuits

variable (c : Circuit) (dt : Float) (controls : Controls)

/-- In a tick the turn of some screen comes when it is told to draw at a point that is not there. -/
def Circuit.Strays : Prop :=
  ∃ earlier ref later screen, c.graph.nodes = earlier ++ ref :: later ∧
    (c.node ref).body = .screen screen ∧
      (c.pool.readings (c.tick dt controls).1.pool earlier (c.node ref)).strays

/-- In a tick every node takes its turn once: it stands once in the list, and its step, which has no
fault, makes it what it is after the tick. -/
def Circuit.EvaluatesAll : Prop :=
  c.graph.nodes.Nodup ∧ ∀ earlier ref later, c.graph.nodes = earlier ++ ref :: later →
    let effect := c.effect dt controls earlier ref
    effect.fault = none ∧
      (c.tick dt controls).1.node ref =
        { c.node ref with
          body := effect.body, outlets := effect.outlets.getD (c.node ref).outlets }

variable {c dt controls}

theorem Circuit.tick_completes_iff_not_strays (nodup : c.graph.nodes.Nodup)
    (texts : c.AllBodies fun body => body.hasTexts) :
    (c.tick dt controls).2 = none ↔ ¬ c.Strays dt controls := by
  rw [Circuit.tick_completes_iff nodup]
  have listed : ∀ earlier ref later, c.graph.nodes = earlier ++ ref :: later →
      ref ∈ c.graph.nodes := by
    intro earlier ref later split
    rw [split]
    exact List.mem_append_right _ List.mem_cons_self
  constructor
  · rintro well ⟨earlier, ref, later, screen, split, body, strays⟩
    have stays := (Body.step_fault_eq_none (texts ref (listed _ _ _ split)) _ _ _ _).mp
      (well earlier ref later split) screen body
    exact Bool.false_ne_true (stays.symm.trans strays)
  · intro stays earlier ref later split
    refine (Body.step_fault_eq_none (texts ref (listed _ _ _ split)) _ _ _ _).mpr ?_
    intro screen body
    refine Bool.eq_false_iff.mpr fun strays => stays ?_
    exact ⟨earlier, ref, later, screen, split, body, strays⟩

theorem Circuit.Sound.evaluatesAll (h : c.Sound) (completes : (c.tick dt controls).2 = none) :
    c.EvaluatesAll dt controls := by
  refine ⟨h.nodes_nodup, fun earlier ref later split => ?_⟩
  have inside : ref < c.pool.nodes.size := by
    apply h.lt_of_mem
    rw [split]
    exact List.mem_append_right _ List.mem_cons_self
  exact ⟨(Circuit.tick_completes_iff h.nodes_nodup).mp completes earlier ref later split,
    Circuit.tick_node h.nodes_nodup split inside completes⟩

end Circuits

section Messages

/-- A message that asks for a tick. Its length is a number, and the controls that come with it are
valid, if there are any. -/
structure AsksTick (message : Fields) (dt : Value) (controls : Option Controls) : Prop where
  type : message.lookup "type" = some (.text "TICK")
  length : (message.lookup "dt").getD (.float 0.0) = dt
  number : dt.isNumber
  host : match controls with
    | none => (message.lookup "host").getD .null = .null
    | some controls => ∃ v, message.lookup "host" = some v ∧ Controls.check v = .ok controls

variable {message : Fields} {dt : Value} {controls : Option Controls}

theorem AsksTick.request (asks : AsksTick message dt controls) :
    Request.ofMessage message =
      (dt.toFloat.mapError RequestFault.number).map (Request.tick · controls) := by
  have type : (message.lookup "type").getD .null = .text "TICK" := by rw [asks.type]; rfl
  have host := asks.host
  simp only [Request.ofMessage, type, Request.tickOf, asks.length]
  cases controls with
  | none =>
      rw [host]
      cases dt.toFloat <;> rfl
  | some controls =>
      obtain ⟨v, given, valid⟩ := host
      rw [given, Option.getD_some]
      cases v with
      | null => cases valid
      | _ =>
          simp only [valid]
          cases dt.toFloat <;> rfl

/-- What a session answers to a message that asks for a tick. -/
theorem Session.respond_tick (s : Session) (asks : AsksTick message dt controls) {length : Float}
    (fits : dt.toFloat = .ok length) :
    let ticked := s.tick length controls
    s.respond message =
      (ticked.1, (ticked.2.map fun fault => Reply.refused (.step fault)).getD
        (.ticked ticked.1.circuit.status)) := by
  simp only [Session.respond, asks.request, fits, Except.mapError, Except.map, Session.perform]
  cases s.tick length controls with
  | mk next fault => cases fault <;> rfl

theorem Session.respond_tick_tooLong (s : Session) (asks : AsksTick message dt controls)
    {fault : NumberFault} (beyond : dt.toFloat = .error fault) :
    s.respond message = (s, .refused (.request (.number fault))) := by
  simp only [Session.respond, asks.request, beyond, Except.mapError, Except.map]

/-- In every session that started empty and whose messages give texts for texts, a request for a
tick is answered with a status exactly when its length is that of a double and no screen is told to
draw where a coordinate is infinite or no number. Then every node takes its turn once. -/
theorem Session.tick_answered (generator : Random.Generator) (mode : CompileMode)
    (messages : List Fields) (declared : ∀ message ∈ messages, isDeclared message)
    (message : Fields) (dt : Value) (controls : Option Controls)
    (asks : AsksTick message dt controls) :
    let s := Session.after { circuit := { graph := { generator } }, mode } messages
    let inForce := controls.getD s.controls
    ((∃ status, (s.respond message).2 = .ticked status) ↔
      ∃ length, dt.toFloat = .ok length ∧ ¬ s.circuit.Strays length inForce) ∧
    ∀ length, dt.toFloat = .ok length → ¬ s.circuit.Strays length inForce →
      s.circuit.EvaluatesAll length inForce ∧
        (s.respond message).1.circuit = (s.circuit.tick length inForce).1 ∧
          (s.respond message).2 = .ticked (s.circuit.tick length inForce).1.status := by
  intro s inForce
  have sound : s.circuit.Sound := Session.after_sound (Circuit.sound_of_empty rfl rfl) messages
  have texts : s.circuit.AllBodies fun body => body.hasTexts :=
    Session.after_hasTexts (Circuit.sound_of_empty rfl rfl) (by rintro _ ⟨⟩) messages declared
  have completes : ∀ length, (s.circuit.tick length inForce).2 = none ↔
      ¬ s.circuit.Strays length inForce :=
    fun length => Circuit.tick_completes_iff_not_strays sound.nodes_nodup texts
  constructor
  · cases fits : dt.toFloat with
    | error fault =>
        rw [s.respond_tick_tooLong asks fits]
        refine iff_of_false (fun ⟨_, same⟩ => nomatch same) ?_
        rintro ⟨_, same, -⟩
        cases same
    | ok length =>
        rw [s.respond_tick asks fits]
        have tried : (s.tick length controls).2 = (s.circuit.tick length inForce).2 := rfl
        cases fault : (s.circuit.tick length inForce).2 with
        | none =>
            rw [tried, fault]
            exact iff_of_true ⟨_, rfl⟩ ⟨length, rfl, (completes length).mp fault⟩
        | some fault' =>
            rw [tried, fault]
            refine iff_of_false (fun ⟨_, same⟩ => nomatch same) ?_
            rintro ⟨_, same, stays⟩
            cases same
            exact nomatch fault.symm.trans ((completes _).mpr stays)
  · intro length fits stays
    have complete := (completes length).mpr stays
    have tried : (s.tick length controls).2 = none := complete
    rw [s.respond_tick asks fits, tried]
    exact ⟨sound.evaluatesAll complete, rfl, rfl⟩

/-- A screen at an infinite column refuses the tick. -/
theorem Session.tick_answered_infinite :
    let text := String.intercalate "\n"
      ["TOYCON_v1", "NODE 0 ConstantNode 0 0 inf", "NODE 1 ConstantNode 0 0 1.0",
        "NODE 2 ScreenNode 0 0", "CONN 0 0 2 0", "CONN 1 0 2 5"]
    let load : Fields := [("type", .text "LOAD"), ("text", .text text)]
    let tick : Fields := [("type", .text "TICK"), ("dt", .float 0.5)]
    let s := Session.after { circuit := .ofSeed 0, mode := .atomic } [load]
    (∀ message ∈ [load], isDeclared message) ∧ AsksTick tick (.float 0.5) none ∧
      s.circuit.Strays 0.5 .idle ∧ ¬ ∃ status, (s.respond tick).2 = .ticked status := by
  intro text load tick s
  have declared : ∀ message ∈ [load], isDeclared message := by decide
  have asks : AsksTick tick (.float 0.5) none := ⟨rfl, rfl, rfl, rfl⟩
  have kind : (s.circuit.node 2).body.kind = .screen := by decide +kernel
  obtain ⟨screen, body⟩ := Body.kind_eq_screen.mp kind
  have strays : s.circuit.Strays 0.5 .idle :=
    ⟨[0, 1], 2, [], screen, by decide +kernel, body, by decide +kernel⟩
  have answered := (tick_answered (.ofSeed 0) .atomic [load] declared tick _ _ asks).1
  refine ⟨declared, asks, strays, fun replied => ?_⟩
  obtain ⟨_, same, stays⟩ := answered.mp replied
  cases same
  exact stays strays

end Messages

end SignalGraph
