import SignalGraph.Node.Step
import SignalGraph.Script.Assembly

/-!
What a script means, apart from gates and ticks. The statements run in order over the values of the
names. An assignment under conditions keeps the earlier value of its name where they do not hold.
Next to it stands ordinary branching, which runs a block only where its condition holds. The two
agree on the scripts that assign under conditions only to names that have a value already.
-/

namespace SignalGraph.Script

section Semantics

/-- The values of the names that are bound. -/
abbrev Env := String → Option Float

def Env.empty : Env := fun _ => none

def Env.set (env : Env) (name : String) (value : Float) : Env :=
  fun other => if other = name then some value else env other

/-- A condition holds when its value is farther than a thousandth from zero. -/
def holds (x : Float) : Bool := 0.001 < x.abs

def truth (b : Bool) : Float := if b then 1.0 else 0.0

def Operator.apply (op : Operator) (a b : Float) : Float :=
  match op with
  | .add => a + b
  | .subtract => a - b
  | .multiply => a * b
  | .divide => if holds b then a / b else 0.0
  | .greater => truth (a > b)
  | .less => truth (a < b)

/-- The value of an expression. A name that is not bound reads as zero. -/
def Expr.value (env : Env) : Expr → Float
  | .number x => x
  | .name token => (env token.text).getD 0.0
  | .absolute inner => (inner.value env).abs
  | .binary op left right => op.apply (left.value env) (right.value env)

/-- The condition in force under some conditions, the outermost first: the only one itself, or the
truth of them all. -/
def effective : List Float → Option Float
  | [] => none
  | [condition] => some condition
  | conditions => some (truth (conditions.all holds))

/-- The value of a name after an assignment, given its earlier one. -/
def merge (condition prior : Option Float) (value : Float) : Float :=
  match condition, prior with
  | some condition, some prior => if holds condition then value else prior
  | _, _ => value

mutual

/-- What a statement under some conditions makes of the names. -/
def Stmt.run (conditions : List Float) (env : Env) : Stmt → Env
  | .declare name value => env.set name (value.value env)
  | .assign name value => env.set name (merge (effective conditions) (env name) (value.value env))
  | .call .. => env
  | .when condition body => runBody (conditions ++ [condition.value env]) env body

def runBody (conditions : List Float) (env : Env) : List Stmt → Env
  | [] => env
  | stmt :: stmts => runBody conditions (stmt.run conditions env) stmts

end

/-- The values of all names at the end of a script. -/
def meaning (script : List Stmt) : Env := runBody [] .empty script

/-- A call of a sink: the values of the conditions it stands under, and of its arguments. -/
structure Call where
  sink : Sink
  conditions : List Float
  args : List Float

/-- What triggers the sink of a call: the condition in force, or one. -/
def Call.trigger (call : Call) : Float := (effective call.conditions).getD 1.0

/-- The arguments of a call by slot. -/
def Call.argument (call : Call) (slots : Nat) : Inputs :=
  (List.range slots).map fun slot => call.args[slot]?

/-- What the sink of a call sees at its inlets. -/
def Call.inputs (call : Call) : Inputs :=
  match call.sink with
  | .beep => some call.trigger :: call.argument 2
  | .color => call.argument 3
  | .screen =>
      if call.args.length < 6 then (call.argument 7).set 5 (some call.trigger)
      else call.argument 7

/-- Whether a call is let through at a trigger. A single condition must be above zero; of several,
all must hold. -/
def Call.passes (call : Call) : Bool :=
  match call.conditions with
  | [] => true
  | [condition] => 0.0 < condition
  | conditions => conditions.all holds

mutual

/-- The calls of sinks that a statement makes, whether their conditions hold or not. -/
def Stmt.calls (conditions : List Float) (env : Env) : Stmt → List Call
  | .declare .. => []
  | .assign .. => []
  | .call callee args =>
      match Sink.ofName? callee.text with
      | some sink => [{ sink, conditions, args := args.map (Expr.value env) }]
      | none => []
  | .when condition body => bodyCalls (conditions ++ [condition.value env]) env body

def bodyCalls (conditions : List Float) (env : Env) : List Stmt → List Call
  | [] => []
  | stmt :: stmts =>
      stmt.calls conditions env ++ bodyCalls conditions (stmt.run conditions env) stmts

end

/-- The calls of a whole script. -/
def calls (script : List Stmt) : List Call := bodyCalls [] .empty script

end Semantics

section Conditions

@[simp] theorem holds_truth (b : Bool) : holds (truth b) = b := by
  cases b <;> decide

@[simp] theorem Env.set_same (env : Env) (name : String) (value : Float) :
    env.set name value name = some value := if_pos rfl

theorem Env.set_other (env : Env) {name other : String} (value : Float) (h : other ≠ name) :
    env.set name value other = env other := if_neg h

theorem Env.set_eq_self {env : Env} {name : String} {value : Float}
    (h : env name = some value) : env.set name value = env := by
  funext other
  by_cases same : other = name
  · subst same
    rw [Env.set_same, h]
  · exact env.set_other value same

theorem Env.set_isSome {env : Env} {bound : String} (name : String) (value : Float)
    (h : (env bound).isSome) : ((env.set name value) bound).isSome := by
  by_cases same : bound = name
  · simp [same]
  · rwa [env.set_other value same]

/-- The condition in force holds exactly where all conditions hold. -/
theorem holds_effective {conditions : List Float} {value : Float}
    (h : effective conditions = some value) : holds value = conditions.all holds := by
  match conditions with
  | [condition] =>
      simp only [effective, Option.some.injEq] at h
      simp [h]
  | first :: second :: rest =>
      simp only [effective, Option.some.injEq] at h
      rw [← h, holds_truth]

theorem effective_isSome {conditions : List Float} (h : conditions ≠ []) :
    ∃ value, effective conditions = some value := by
  match conditions with
  | [condition] => exact ⟨condition, rfl⟩
  | first :: second :: rest => exact ⟨_, rfl⟩

/-- One more condition inside others joins them. -/
theorem effective_append {conditions : List Float} {value : Float}
    (h : effective conditions = some value) (inner : Float) :
    effective (conditions ++ [inner]) = some (truth (holds value && holds inner)) := by
  have whole : (conditions ++ [inner]).all holds = (holds value && holds inner) := by
    rw [holds_effective h]
    simp
  match conditions with
  | [condition] => exact congrArg (some ∘ truth) whole
  | first :: second :: rest => exact congrArg (some ∘ truth) whole

/-- A trigger is high exactly for the calls that are let through. -/
theorem Call.isHigh_trigger (call : Call) : isHigh call.trigger = call.passes := by
  obtain ⟨sink, conditions, args⟩ := call
  match conditions with
  | [] =>
      show isHigh 1.0 = true
      decide
  | [condition] => rfl
  | first :: second :: rest =>
      show isHigh (truth ((first :: second :: rest).all holds)) =
        (first :: second :: rest).all holds
      cases (first :: second :: rest).all holds <;> decide

theorem Call.beep_trigger {call : Call} (beep : call.sink = .beep) :
    call.inputs.level 0 = call.trigger := by
  simp only [Call.inputs, beep]
  rfl

/-- The sixth inlet of a screen is its trigger where no argument is given for it. -/
theorem Call.screen_trigger {call : Call} (screen : call.sink = .screen)
    (few : call.args.length < 6) : call.inputs.level 5 = call.trigger := by
  simp only [Call.inputs, screen, few, ↓reduceIte]
  rfl

/-- A call is let through like an assignment, unless it stands under one condition that is above
zero without holding or holds without being above zero. -/
theorem Call.passes_eq_holds_iff (call : Call) :
    call.passes = call.conditions.all holds ↔
      ∀ condition, call.conditions = [condition] → (0.0 < condition ↔ holds condition) := by
  obtain ⟨sink, conditions, args⟩ := call
  match conditions with
  | [] => simp [Call.passes]
  | [condition] =>
      simp only [Call.passes, List.all_cons, List.all_nil, Bool.and_true, List.cons.injEq, and_true,
        forall_eq']
      rw [Bool.eq_iff_iff, decide_eq_true_iff]
  | first :: second :: rest => simp [Call.passes]

end Conditions

section Branching

mutual

/-- What a statement makes of the names when a block is run only where its condition holds. -/
def Stmt.exec (env : Env) : Stmt → Env
  | .declare name value => env.set name (value.value env)
  | .assign name value => env.set name (value.value env)
  | .call .. => env
  | .when condition body => if holds (condition.value env) then execBody env body else env

def execBody (env : Env) : List Stmt → Env
  | [] => env
  | stmt :: stmts => execBody (stmt.exec env) stmts

end

mutual

/-- Declares nothing, and assigns only to names that are bound. -/
def Stmt.staysWithin (bound : List String) : Stmt → Bool
  | .declare .. => false
  | .assign name _ => bound.contains name
  | .call .. => true
  | .when _ body => bodyStaysWithin bound body

def bodyStaysWithin (bound : List String) : List Stmt → Bool
  | [] => true
  | stmt :: stmts => stmt.staysWithin bound && bodyStaysWithin bound stmts

end

/-- Every block stays within the names that are bound where it starts. -/
def bindsFirst (bound : List String) : List Stmt → Bool
  | [] => true
  | .declare name _ :: stmts => bindsFirst (name :: bound) stmts
  | .assign name _ :: stmts => bindsFirst (name :: bound) stmts
  | .call .. :: stmts => bindsFirst bound stmts
  | .when _ body :: stmts => bodyStaysWithin bound body && bindsFirst bound stmts

/-- All these names have a value. -/
def Env.Binds (env : Env) (bound : List String) : Prop := ∀ name ∈ bound, (env name).isSome

theorem Env.Binds.set {env : Env} {bound : List String} (h : env.Binds bound) (name : String)
    (value : Float) : (env.set name value).Binds bound :=
  fun other mem => Env.set_isSome name value (h other mem)

theorem Env.Binds.cons {env : Env} {bound : List String} (h : env.Binds bound) (name : String)
    (value : Float) : (env.set name value).Binds (name :: bound) := by
  intro other mem
  rcases List.mem_cons.mp mem with rfl | mem
  · simp
  · exact h.set name value other mem

mutual

/-- Under a condition that does not hold, a statement that stays within the bound names changes
nothing. -/
theorem Stmt.run_idle (conditions : List Float) (fails : conditions.all holds = false)
    (bound : List String) (env : Env) (binds : env.Binds bound) :
    ∀ stmt : Stmt, stmt.staysWithin bound → stmt.run conditions env = env
  | .declare name value => by
      intro within
      simp [Stmt.staysWithin] at within
  | .assign name value => by
      intro within
      have member : name ∈ bound := by simpa [Stmt.staysWithin] using within
      obtain ⟨prior, hprior⟩ := Option.isSome_iff_exists.mp (binds name member)
      have nonempty : conditions ≠ [] := by
        rintro rfl
        simp at fails
      obtain ⟨condition, hcondition⟩ := effective_isSome nonempty
      have rejected : holds condition = false := by rw [holds_effective hcondition, fails]
      simp only [Stmt.run, hcondition, hprior, merge, rejected, Bool.false_eq_true, ↓reduceIte]
      exact Env.set_eq_self hprior
  | .call callee args => by
      intro _
      rfl
  | .when condition body => by
      intro within
      rw [Stmt.run]
      apply runBody_idle _ _ bound env binds body within
      simp [fails]

theorem runBody_idle (conditions : List Float) (fails : conditions.all holds = false)
    (bound : List String) (env : Env) (binds : env.Binds bound) :
    ∀ body : List Stmt, bodyStaysWithin bound body → runBody conditions env body = env
  | [] => by
      intro _
      rfl
  | stmt :: stmts => by
      intro within
      simp only [bodyStaysWithin, Bool.and_eq_true] at within
      rw [runBody, stmt.run_idle conditions fails bound env binds within.1]
      exact runBody_idle conditions fails bound env binds stmts within.2

end

mutual

/-- Under conditions that all hold, merging is branching, and the bound names stay bound. -/
theorem Stmt.run_taken (conditions : List Float) (hold : conditions.all holds = true)
    (bound : List String) (env : Env) (binds : env.Binds bound) :
    ∀ stmt : Stmt, stmt.staysWithin bound →
      stmt.run conditions env = stmt.exec env ∧ (stmt.exec env).Binds bound
  | .declare name value => by
      intro within
      simp [Stmt.staysWithin] at within
  | .assign name value => by
      intro _
      refine ⟨?_, binds.set name _⟩
      have overwrites : merge (effective conditions) (env name) (value.value env) =
          value.value env := by
        cases heffective : effective conditions with
        | none => rfl
        | some condition =>
            have accepted : holds condition = true := by rw [holds_effective heffective, hold]
            cases env name with
            | none => rfl
            | some prior => simp [merge, accepted]
      rw [Stmt.run, overwrites, Stmt.exec]
  | .call callee args => by
      intro _
      exact ⟨rfl, binds⟩
  | .when condition body => by
      intro within
      rw [Stmt.run, Stmt.exec]
      -- a block that is not taken still runs, but every assignment keeps its name as it was
      cases hcondition : holds (condition.value env) with
      | true =>
          have inner : (conditions ++ [condition.value env]).all holds = true := by
            simp [hold, hcondition]
          exact runBody_taken _ inner bound env binds body within
      | false =>
          have inner : (conditions ++ [condition.value env]).all holds = false := by
            simp [hcondition]
          exact ⟨runBody_idle _ inner bound env binds body within, binds⟩

theorem runBody_taken (conditions : List Float) (hold : conditions.all holds = true)
    (bound : List String) (env : Env) (binds : env.Binds bound) :
    ∀ body : List Stmt, bodyStaysWithin bound body →
      runBody conditions env body = execBody env body ∧ (execBody env body).Binds bound
  | [] => by
      intro _
      exact ⟨rfl, binds⟩
  | stmt :: stmts => by
      intro within
      simp only [bodyStaysWithin, Bool.and_eq_true] at within
      obtain ⟨first, stays⟩ := stmt.run_taken conditions hold bound env binds within.1
      rw [runBody, execBody, first]
      exact runBody_taken conditions hold bound _ stays stmts within.2

end

/-- Where every block stays within the names bound before it, merging is branching. -/
theorem runBody_eq_execBody (bound : List String) (env : Env) (binds : env.Binds bound)
    (body : List Stmt) (first : bindsFirst bound body) :
    runBody [] env body = execBody env body := by
  induction body generalizing bound env with
  | nil => rfl
  | cons stmt stmts ih =>
      rw [runBody, execBody]
      cases stmt with
      | declare name value => exact ih _ _ (binds.cons name _) first
      | assign name value => exact ih _ _ (binds.cons name _) first
      | call callee args => exact ih _ _ binds first
      | «when» condition body =>
          simp only [bindsFirst, Bool.and_eq_true] at first
          have block := Stmt.run_taken [] rfl bound env binds (.when condition body) first.1
          rw [block.1]
          exact ih _ _ block.2 first.2

/-- A script whose blocks assign only to names that are bound before them means what it would with
ordinary branching. -/
theorem meaning_eq_execBody (script : List Stmt) (first : bindsFirst [] script) :
    meaning script = execBody .empty script :=
  runBody_eq_execBody [] .empty (by simp [Env.Binds]) script first

end Branching

end SignalGraph.Script
