import SignalGraph.Proofs.Script.Meaning

/-!
What of a script its sinks do not depend on: arguments past the last slot of a sink, and calls of
names that are no sinks. A script from which both are cut makes the same calls with fewer arguments,
and no sink sees at its inlets that they are gone.
-/

namespace SignalGraph.Script

section Slots

/-- An argument of a call, zero where it is missing. -/
def Call.level (call : Call) (slot : Nat) : Float := (call.args[slot]?).getD 0.0

/-- The inlet of a sink that its first argument goes to. -/
def Sink.offset : Sink → Nat
  | .beep => 1
  | .color => 0
  | .screen => 0

theorem Call.argument_getD (call : Call) {slot slots : Nat} (taken : slot < slots) :
    (call.argument slots).getD slot none = call.args[slot]? := by
  rw [Call.argument, List.getD_eq_getElem?_getD, List.getElem?_map, List.getElem?_range taken]
  rfl

/-- Each argument that a sink takes reaches an inlet of its own. Only the sixth inlet of a screen
holds the trigger where fewer than six arguments are given. -/
theorem Call.inputs_getD (call : Call) {sink : Sink} (is : call.sink = sink) (slot : Nat)
    (taken : slot < sink.limit)
    (free : sink = .screen → slot = 5 → 6 ≤ call.args.length) :
    call.inputs.getD (slot + sink.offset) none = call.args[slot]? := by
  subst is
  obtain ⟨sink, conditions, args⟩ := call
  cases sink with
  | beep => exact Call.argument_getD _ taken
  | color => exact Call.argument_getD _ taken
  | screen =>
      have given := Call.argument_getD ⟨.screen, conditions, args⟩ taken
      by_cases few : args.length < 6
      · have other : 5 ≠ slot := fun same => absurd (free rfl same.symm) (Nat.not_le.mpr few)
        simp only [Call.inputs, if_pos few, Sink.offset, Nat.add_zero]
        rw [List.getD_eq_getElem?_getD, List.getElem?_set_ne other, ← List.getD_eq_getElem?_getD]
        exact given
      · simp only [Call.inputs, if_neg few]
        exact given

theorem Call.inputs_level (call : Call) {sink : Sink} (is : call.sink = sink) (slot : Nat)
    (taken : slot < sink.limit)
    (free : sink = .screen → slot = 5 → 6 ≤ call.args.length) :
    call.inputs.level (slot + sink.offset) = call.level slot := by
  rw [Inputs.level, call.inputs_getD is slot taken free, Call.level]

end Slots

section Surplus

/-- A call without the arguments that its sink does not take. -/
def Call.trim (call : Call) : Call := { call with args := call.args.take call.sink.limit }

mutual

/-- A statement without the arguments that no sink takes and the calls that reach no sink. -/
def Stmt.trim : Stmt → List Stmt
  | .declare name value => [.declare name value]
  | .assign name value => [.assign name value]
  | .call callee args =>
      match Sink.ofName? callee.text with
      | some sink => [.call callee (args.take sink.limit)]
      | none => []
  | .when condition body => [.when condition (trimBody body)]

def trimBody : List Stmt → List Stmt
  | [] => []
  | stmt :: stmts => stmt.trim ++ trimBody stmts

end

theorem Call.argument_trim (call : Call) (slots : Nat) (fits : slots ≤ call.sink.limit) :
    call.trim.argument slots = call.argument slots := by
  apply List.map_congr_left
  intro slot mem
  have taken := List.mem_range.mp mem
  exact List.getElem?_take_of_lt (Nat.lt_of_lt_of_le taken fits)

/-- No sink sees its surplus arguments. -/
theorem Call.trim_inputs (call : Call) : call.trim.inputs = call.inputs := by
  obtain ⟨sink, conditions, args⟩ := call
  have same := Call.argument_trim ⟨sink, conditions, args⟩
  cases sink with
  | beep => exact congrArg (_ :: ·) (same 2 (Nat.le_refl 2))
  | color => exact same 3 (Nat.le_refl 3)
  | screen =>
      -- cutting at seven arguments does not decide whether there are six
      have few : (args.take 7).length < 6 ↔ args.length < 6 := by
        rw [List.length_take]
        omega
      have arguments := same 7 (Nat.le_refl 7)
      simp only [Call.inputs, arguments]
      simp only [Call.trim, Sink.limit, few]
      rfl

/-- What does not depend on surplus arguments is the same for calls that are equal without them. -/
theorem map_eq_of_trim {α : Type} {calls others : List Call} {f : Call → α}
    (blind : ∀ call : Call, f call.trim = f call)
    (same : calls.map Call.trim = others.map Call.trim) : calls.map f = others.map f := by
  have through : ∀ calls : List Call, (calls.map Call.trim).map f = calls.map f := by
    intro calls
    rw [List.map_map]
    exact List.map_congr_left fun call _ => blind call
  rw [← through calls, same, through others]

theorem runBody_append (conditions : List Float) (env : Env) (front back : List Stmt) :
    runBody conditions env (front ++ back) =
      runBody conditions (runBody conditions env front) back := by
  induction front generalizing env with
  | nil => rfl
  | cons stmt stmts ih => exact ih (stmt.run conditions env)

theorem bodyCalls_append (conditions : List Float) (env : Env) (front back : List Stmt) :
    bodyCalls conditions env (front ++ back) =
      bodyCalls conditions env front ++
        bodyCalls conditions (runBody conditions env front) back := by
  induction front generalizing env with
  | nil => rfl
  | cons stmt stmts ih =>
      simp only [List.cons_append, bodyCalls, runBody, ih, List.append_assoc]

mutual

/-- What is cut binds no name. -/
theorem Stmt.run_trim (conditions : List Float) (env : Env) :
    ∀ stmt : Stmt, runBody conditions env stmt.trim = stmt.run conditions env
  | .declare _ _ => rfl
  | .assign _ _ => rfl
  | .call callee args => by
      rw [Stmt.trim]
      cases Sink.ofName? callee.text <;> rfl
  | .when condition body => runBody_trim (conditions ++ [condition.value env]) env body

theorem runBody_trim (conditions : List Float) (env : Env) :
    ∀ body : List Stmt, runBody conditions env (trimBody body) = runBody conditions env body
  | [] => rfl
  | stmt :: stmts => by
      rw [trimBody, runBody_append, stmt.run_trim conditions env, runBody]
      exact runBody_trim conditions _ stmts

end

mutual

/-- What is left of a statement makes its calls, less the surplus arguments. -/
theorem Stmt.calls_trim (conditions : List Float) (env : Env) :
    ∀ stmt : Stmt,
      bodyCalls conditions env stmt.trim = (stmt.calls conditions env).map Call.trim
  | .declare _ _ => rfl
  | .assign _ _ => rfl
  | .call callee args => by
      rw [Stmt.trim, Stmt.calls]
      cases hsink : Sink.ofName? callee.text with
      | none => rfl
      | some sink =>
          simp only [bodyCalls, Stmt.calls, hsink, List.append_nil, List.map_cons, List.map_nil,
            Call.trim, List.map_take]
  | .when condition body => by
      rw [Stmt.trim, bodyCalls, bodyCalls, List.append_nil]
      exact bodyCalls_trim (conditions ++ [condition.value env]) env body

theorem bodyCalls_trim (conditions : List Float) (env : Env) :
    ∀ body : List Stmt,
      bodyCalls conditions env (trimBody body) = (bodyCalls conditions env body).map Call.trim
  | [] => rfl
  | stmt :: stmts => by
      rw [trimBody, bodyCalls_append, stmt.calls_trim conditions env, stmt.run_trim conditions env,
        bodyCalls_trim conditions _ stmts, bodyCalls, List.map_append]

end

/-- The calls of a script, each less its surplus arguments, are those of the script that is left
when surplus arguments and calls of unknown names are cut. -/
theorem calls_trim (script : List Stmt) : calls (trimBody script) = (calls script).map Call.trim :=
  bodyCalls_trim [] .empty script

end Surplus

end SignalGraph.Script
