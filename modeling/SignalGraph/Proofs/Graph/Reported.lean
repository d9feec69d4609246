import SignalGraph.Graph.Document
import SignalGraph.Proofs.Decimal.Overflow
import SignalGraph.Proofs.Outcome

/-!
What the check of a document reports. All that is wrong with a document is reported as issues, but
for an integer beyond all doubles: where a node takes nothing but such a number, the check stops
with the fault of the number.
-/

namespace SignalGraph

section Numbers

/-- Only integers are too large. -/
theorem Value.toFloat_tooLarge_iff {v : Value} :
    v.toFloat = .error .tooLarge ↔ ∃ n, v = .int n ∧ Decimal.overflowLimit ≤ n.natAbs := by
  cases v with
  | int n =>
      simp only [Value.toFloat, Value.int.injEq, exists_eq_left', ← Decimal.ofInt?_eq_none_iff]
      cases Decimal.ofInt? n <;> simp
  | text s =>
      cases read : Decimal.readFloat? s <;> simp [Value.toFloat, read]
  | _ => simp [Value.toFloat]

theorem numberParam_eq_error {param : Option Value} {fault : NumberFault} :
    numberParam param = .error (.number fault) ↔
      ∃ v, param = some v ∧ v.toFloat = .error fault := by
  cases param with
  | none => simp [numberParam]
  | some v =>
      simp only [numberParam, mapError_eq_error, CreateFault.number.injEq, exists_eq_right,
        Option.some.injEq, exists_eq_left']

end Numbers

section Params

variable {kind : Kind} {params : Fields}

/-- No kind takes a parameter with one of the names that all calls take. -/
theorem Kind.ne_of_param? {name : String} (takes : kind.param? = some name) :
    name ≠ "self" ∧ name ≠ "kind" := by
  cases kind <;> simp only [Kind.param?, Option.some.injEq, reduceCtorEq] at takes <;>
    subst takes <;> decide

/-- Parameters are accepted when the kind takes each of them. -/
theorem Kind.checkParams_eq_ok :
    kind.checkParams params = .ok () ↔ ∀ field ∈ params, kind.param? = some field.1 := by
  induction params with
  | nil => simp [Kind.checkParams]
  | cons field params ih =>
      obtain ⟨name, v⟩ := field
      rw [List.forall_mem_cons, ← ih, Kind.checkParams]
      split
      · rename_i owner
        simp only [reduceCtorEq, false_iff, not_and]
        intro takes
        exact absurd owner (Kind.ne_of_param? takes).1
      · split <;> rename_i takes <;> simp [takes]

theorem Kind.checkParams_ne_number {fault : NumberFault} :
    kind.checkParams params ≠ .error (.number fault) := by
  induction params with
  | nil => simp [Kind.checkParams]
  | cons field params ih =>
      obtain ⟨name, v⟩ := field
      rw [Kind.checkParams]
      split
      · simp
      · split
        · exact ih
        · simp

/-- The kinds that are made from a number. -/
def Kind.takesNumber : Kind → Bool
  | .constant => true
  | .timer => true
  | .counter => true
  | _ => false

theorem MathOp.ofValue_ne_number (v : Value) (fault : NumberFault) :
    MathOp.ofValue v ≠ .error (.number fault) := by
  unfold MathOp.ofValue
  split
  · cases MathOp.ofName? _ <;> simp
  · simp

theorem LogicOp.ofValue_ne_number (v : Value) (fault : NumberFault) :
    LogicOp.ofValue v ≠ .error (.number fault) := by
  unfold LogicOp.ofValue
  split
  · cases LogicOp.ofName? _ <;> simp
  · simp

/-- Only the kinds that are made from a number fail for one. -/
theorem Body.ofParam_eq_number {param : Option Value} {fault : NumberFault} :
    Body.ofParam kind param = .error (.number fault) ↔
      kind.takesNumber ∧ ∃ v, param = some v ∧ v.toFloat = .error fault := by
  rw [← numberParam_eq_error]
  cases kind with
  | constant | timer | counter =>
      simp [Body.ofParam, bind_eq_error, Kind.takesNumber, pure, Except.pure]
  | math =>
      cases param <;>
        simp [Body.ofParam, bind_eq_error, Kind.takesNumber, MathOp.ofValue_ne_number, pure,
          Except.pure]
  | logic =>
      cases param <;>
        simp [Body.ofParam, bind_eq_error, Kind.takesNumber, LogicOp.ofValue_ne_number, pure,
          Except.pure]
  | _ => simp [Body.ofParam, Kind.takesNumber]

/-- A body fails for a number only after all its parameters have been accepted. -/
theorem Body.create_eq_number {fault : NumberFault} :
    Body.create kind params = .error (.number fault) ↔
      (∀ field ∈ params, kind.param? = some field.1) ∧
        Body.ofParam kind (params.lookup (kind.param?.getD "")) = .error (.number fault) := by
  rw [Body.create, bind_eq_error, ← Kind.checkParams_eq_ok]
  constructor
  · rintro (refused | ⟨⟨⟩, accepted, faulty⟩)
    · exact absurd refused Kind.checkParams_ne_number
    · exact ⟨accepted, faulty⟩
  · rintro ⟨accepted, faulty⟩
    exact .inr ⟨(), accepted, faulty⟩

end Params

section Entries

/-- Whether all that an entry gives is the number that its kind is made from, and this is an integer
beyond all doubles. -/
def NodeEntry.Overflows (entry : NodeEntry) : Prop :=
  entry.kind.takesNumber ∧ (∀ field ∈ entry.params, entry.kind.param? = some field.1) ∧
    ∃ name n, entry.kind.param? = some name ∧ entry.params.lookup name = some (.int n) ∧
      Decimal.overflowLimit ≤ n.natAbs

theorem NodeEntry.body_eq_number {entry : NodeEntry} {fault : NumberFault} :
    entry.body = .error (.number fault) ↔
      Body.create entry.kind entry.params = .error (.number fault) := by
  unfold NodeEntry.body Body.createNamed
  by_cases given : (entry.params.lookup "kind").isSome
  · rw [if_pos given, Body.create_eq_number]
    constructor
    · intro refused
      cases refused
    · rintro ⟨accepted, -⟩
      have free : entry.params.lookup "kind" = none := by
        rw [List.lookup_eq_none_iff]
        intro field mem
        have other := (Kind.ne_of_param? (accepted field mem)).2
        simp [other.symm]
      rw [free] at given
      cases given
  · rw [if_neg given, Kind.ofValue, Kind.ofName?_name]
    exact Iff.rfl

/-- An entry has a number that is too large exactly when it overflows. -/
theorem NodeEntry.body_tooLarge_iff {entry : NodeEntry} :
    entry.body = .error (.number .tooLarge) ↔ entry.Overflows := by
  rw [NodeEntry.body_eq_number, Body.create_eq_number, Body.ofParam_eq_number]
  simp only [Value.toFloat_tooLarge_iff]
  constructor
  · rintro ⟨accepted, takes, v, given, n, rfl, large⟩
    cases named : entry.kind.param? with
    | none => cases kind : entry.kind <;> simp [kind, Kind.param?, Kind.takesNumber] at named takes
    | some name =>
        rw [named] at given
        exact ⟨takes, accepted, name, n, named, given, large⟩
  · rintro ⟨takes, accepted, name, n, named, given, large⟩
    refine ⟨accepted, takes, .int n, ?_, n, rfl, large⟩
    rw [named]
    exact given

end Entries

section Documents

/-- The check of the nodes stops only for an entry that overflows, whatever comes before it. -/
theorem checkNodes_eq_error {entries : List NodeEntry} {table : List (Int × SlotCounts)}
    {fault : DocumentFault} :
    checkNodes table entries = .error fault ↔
      fault = .tooLarge ∧ ∃ entry ∈ entries, entry.Overflows := by
  induction entries generalizing table with
  | nil => simp [checkNodes]
  | cons entry entries ih =>
      rw [checkNodes, List.exists_mem_cons_iff, ← NodeEntry.body_tooLarge_iff]
      split
      · rename_i made
        simp [made, ih]
      · rename_i large
        simp [large, eq_comm]
      · rename_i other small refused
        have fits : entry.body ≠ .error (.number .tooLarge) := fun large =>
          small (Except.error.inj (refused.symm.trans large))
        have rest : checkNodes table entries = .error fault ↔ _ := ih
        simp only [fits, false_or, ← rest]
        cases checkNodes table entries <;> simp [Except.map]

theorem Document.issues_eq_error {d : Document} {fault : DocumentFault} :
    d.issues = .error fault ↔ fault = .tooLarge ∧ ∃ entry ∈ d.nodes, entry.Overflows := by
  have nodes : checkNodes [] d.nodes = .error fault ↔ _ := checkNodes_eq_error
  rw [← nodes, Document.issues, bind_eq_error]
  simp [pure, Except.pure]

/-- A document whose fields are valid is accepted or has issues, unless an entry overflows. -/
theorem Document.validate_eq_tooLarge {d : Document} :
    d.validate = .error .tooLarge ↔ ∃ entry ∈ d.nodes, entry.Overflows := by
  rw [Document.validate, bind_eq_error, Document.issues_eq_error]
  constructor
  · rintro (⟨-, overflows⟩ | ⟨issues, -, refused⟩)
    · exact overflows
    · split at refused <;> cases refused
  · intro overflows
    exact .inl ⟨rfl, overflows⟩

theorem Document.ofValue_eq_tooLarge {v : Value} :
    Document.ofValue v = .error .tooLarge ↔
      ∃ d, Document.checkFields v = .ok d ∧ ∃ entry ∈ d.nodes, entry.Overflows := by
  rw [Document.ofValue, bind_eq_error]
  simp only [mapError_eq_error, mapError_eq_ok, reduceCtorEq, and_false, exists_false, false_or,
    Document.validate_eq_tooLarge]

/-- Data is accepted as a document, or what is wrong with it is reported as issues, exactly when its
fields are not all valid or no node gives, as the number that its kind is made from and with nothing
else, an integer beyond all doubles. -/
theorem Document.ofValue_reports (v : Value) :
    ((∃ d, Document.ofValue v = .ok d) ∨ ∃ issues, Document.ofValue v = .error (.issues issues)) ↔
      ∀ d, Document.checkFields v = .ok d → ∀ entry ∈ d.nodes, ¬entry.Overflows := by
  have stopped := Document.ofValue_eq_tooLarge (v := v)
  have others : (∀ d, Document.checkFields v = .ok d → ∀ entry ∈ d.nodes, ¬entry.Overflows) ↔
      Document.ofValue v ≠ .error .tooLarge := by
    rw [ne_eq, stopped]
    simp only [not_exists, not_and]
  rw [others]
  cases Document.ofValue v with
  | ok d => simp
  | error fault => cases fault <;> simp

end Documents

end SignalGraph
