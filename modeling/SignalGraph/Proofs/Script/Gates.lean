import Mathlib.Data.List.GetD
import Mathlib.Data.List.Induction
import SignalGraph.Node.Step
import SignalGraph.Proofs.Lists
import SignalGraph.Script.Assembly

/-!
Lists of gates on their own. Every gate reads earlier gates only, and only those with an outlet, so
one pass over the list gives each gate its value, whatever gates follow.
-/

namespace SignalGraph

/-- Bodies without state, whose one outlet depends on their inlets alone. -/
def Body.isPure : Body → Bool
  | .constant _ => true
  | .math _ => true
  | .logic _ => true
  | _ => false

/-- The number that a body without state puts out. -/
def Body.result (inputs : Inputs) : Body → Float
  | .constant value => value
  | .math op => op.eval inputs
  | .logic op => ofBool (op.eval inputs)
  | _ => 0.0

/-- Bodies that put out nothing to other nodes, but keep what they were last told. -/
def Body.isSink (body : Body) : Bool :=
  match body.kind with
  | .beep => true
  | .color => true
  | .screen => true
  | _ => false

theorem Body.isSink_of_isPure {body : Body} (h : body.isPure) : body.isSink = false := by
  cases body <;> first | rfl | cases h

theorem Body.outlets_of_isPure {body : Body} (h : body.isPure) : body.outlets.length = 1 := by
  cases body <;> first | rfl | cases h

/-- In every tick a body without state puts out its number and is left as it was. -/
theorem Body.step_of_isPure {body : Body} (h : body.isPure) (around : Surroundings) (id : Int)
    (inputs : Inputs) (generator : Random.Generator) :
    body.step around id inputs generator =
      { body, outlets := some [body.result inputs], generator } := by
  cases body <;> first | rfl | cases h

namespace Script

/-- What a gate sees, given the values of the gates. -/
def Gate.inputs (gate : Gate) (values : List Float) : Inputs :=
  gate.sources.map fun source => source.map fun wire => values.getD wire 0.0

def Gate.result (gate : Gate) (values : List Float) : Float :=
  gate.body.result (gate.inputs values)

/-- The values of all gates, found in order. -/
def gateValues (gates : List Gate) : List Float :=
  gates.foldl (fun values gate => values ++ [gate.result values]) []

theorem Sink.body_isSink (sink : Sink) : sink.body.isSink := by
  cases sink <;> rfl

/-- A wire that comes from an outlet. -/
def LiveIn (gates : List Gate) (wire : Wire) : Prop :=
  ∃ gate, gates[wire]? = some gate ∧ gate.body.isPure

/-- A gate that may stand behind some others: each of its inlets is free or reads one of them. -/
structure Gate.Fits (gate : Gate) (before : List Gate) : Prop where
  body : gate.body.isPure ∨ ∃ sink : Sink, gate.body = sink.body
  slots : gate.sources.length = gate.body.inlets.length
  live : ∀ wire, some wire ∈ gate.sources → LiveIn before wire

def WellWired (gates : List Gate) : Prop :=
  ∀ (i : Nat) (gate : Gate), gates[i]? = some gate → gate.Fits (gates.take i)

/-- The sinks among some gates, with their positions. -/
def sinksOf (gates : List Gate) : List (Gate × Nat) :=
  gates.zipIdx.filter fun entry => entry.1.body.isSink

theorem gateValues_concat (gates : List Gate) (gate : Gate) :
    gateValues (gates ++ [gate]) = gateValues gates ++ [gate.result (gateValues gates)] := by
  simp only [gateValues, List.foldl_append, List.foldl_cons, List.foldl_nil]

theorem gateValues_length (gates : List Gate) : (gateValues gates).length = gates.length := by
  induction gates using List.reverseRecOn with
  | nil => rfl
  | append_singleton gates gate ih =>
      rw [gateValues_concat, List.length_append, List.length_append, ih]
      rfl

/-- Gates behind others do not change their values. -/
theorem gateValues_prefix (gates more : List Gate) :
    gateValues gates <+: gateValues (gates ++ more) := by
  induction more using List.reverseRecOn with
  | nil => exact (List.append_nil gates).symm ▸ List.prefix_refl _
  | append_singleton more gate ih =>
      rw [← List.append_assoc, gateValues_concat]
      exact ih.trans (List.prefix_append _ _)

theorem LiveIn.lt {gates : List Gate} {wire : Wire} (h : LiveIn gates wire) :
    wire < gates.length := by
  obtain ⟨gate, found, -⟩ := h
  exact (List.getElem?_eq_some_iff.mp found).1

theorem LiveIn.mono {gates later : List Gate} {wire : Wire} (h : LiveIn gates wire)
    (grows : gates <+: later) : LiveIn later wire := by
  obtain ⟨gate, found, pure⟩ := h
  obtain ⟨more, rfl⟩ := grows
  have bound := (List.getElem?_eq_some_iff.mp found).1
  exact ⟨gate, by rw [List.getElem?_append_left bound, found], pure⟩

/-- A live wire keeps its value while gates are added. -/
theorem LiveIn.value_mono {gates later : List Gate} {wire : Wire} (h : LiveIn gates wire)
    (grows : gates <+: later) :
    (gateValues later).getD wire 0.0 = (gateValues gates).getD wire 0.0 := by
  obtain ⟨more, rfl⟩ := grows
  obtain ⟨values, hvalues⟩ := gateValues_prefix gates more
  have bound : wire < (gateValues gates).length := by
    rw [gateValues_length]
    exact h.lt
  rw [← hvalues, List.getD_append _ _ _ _ bound]

theorem Gate.Fits.mono {gate : Gate} {before later : List Gate} (h : gate.Fits before)
    (grows : before <+: later) : gate.Fits later :=
  ⟨h.body, h.slots, fun wire mem => (h.live wire mem).mono grows⟩

/-- A gate sees the same numbers while gates are added. -/
theorem Gate.Fits.inputs_mono {gate : Gate} {before later : List Gate} (h : gate.Fits before)
    (grows : before <+: later) :
    gate.inputs (gateValues later) = gate.inputs (gateValues before) := by
  apply List.map_congr_left
  intro source mem
  cases source with
  | none => rfl
  | some wire => exact congrArg some ((h.live wire mem).value_mono grows)

theorem WellWired.concat {gates : List Gate} {gate : Gate} (h : WellWired gates)
    (fits : gate.Fits gates) : WellWired (gates ++ [gate]) := by
  intro i other found
  rcases getElem?_concat_eq_some.mp found with early | ⟨rfl, rfl⟩
  · have bound := (List.getElem?_eq_some_iff.mp early).1
    rw [List.take_append_of_le_length (Nat.le_of_lt bound)]
    exact h i other early
  · rw [List.take_left]
    exact fits

/-- The value of a gate in a list is its result on the values of all of them. -/
theorem WellWired.value {gates : List Gate} (h : WellWired gates) {i : Nat} {gate : Gate}
    (found : gates[i]? = some gate) :
    (gateValues gates).getD i 0.0 = gate.result (gateValues gates) := by
  obtain ⟨bound, hgate⟩ := List.getElem?_eq_some_iff.mp found
  have split : gates.take i ++ [gate] = gates.take (i + 1) := by
    rw [← hgate, List.take_append_getElem]
  have early : gates.take i ++ [gate] <+: gates := split ▸ List.take_prefix _ _
  have before : gates.take i <+: gates := List.take_prefix _ _
  obtain ⟨more, hmore⟩ := early
  obtain ⟨values, hvalues⟩ := gateValues_prefix (gates.take i ++ [gate]) more
  have size : (gateValues (gates.take i)).length = i := by
    rw [gateValues_length, List.length_take, Nat.min_eq_left (Nat.le_of_lt bound)]
  have seen : gate.result (gateValues gates) = gate.result (gateValues (gates.take i)) :=
    congrArg (Body.result · gate.body) ((h i gate found).inputs_mono before)
  rw [seen]
  rw [hmore] at hvalues
  rw [← hvalues, gateValues_concat, List.append_assoc, List.getD_append_right _ _ _ _ (by omega),
    size, Nat.sub_self]
  rfl

theorem sinksOf_concat (gates : List Gate) (gate : Gate) :
    sinksOf (gates ++ [gate]) =
      sinksOf gates ++ if gate.body.isSink then [(gate, gates.length)] else [] := by
  simp only [sinksOf, List.zipIdx_append, List.filter_append, List.zipIdx_singleton, Nat.zero_add,
    List.filter_cons, List.filter_nil]

end Script

end SignalGraph
