import Mathlib.Logic.Relation
import SignalGraph.Proofs.Script.Effects
import SignalGraph.Script.Compile

/-!
The steps of an assembly. Whatever is assembled, it is assembled by gates at the cursor, by warnings
and by names, so what these keep is kept by every script. No gate is ever changed, and each new one
is a sink or reads an earlier gate at every one of its inlets.
-/

namespace SignalGraph.Script

section Steps

/-- A sink, or a gate that has a source at each of its inlets. -/
def Gate.IsGiven (gate : Gate) : Prop := gate.body.isSink ∨ none ∉ gate.sources

/-- One step of an assembly. -/
inductive Assembly.Moves (s : Assembly) : Assembly → Prop where
  | emit {body : Body} {sources : List (Option Wire)} (given : (s.gate body sources).IsGiven) :
      s.Moves ((emit body sources).run s).2
  | warn (warning : Warning) : s.Moves ((warn warning).run s).2
  | bind (name : String) (wire : Wire) : s.Moves ((bind name wire).run s).2

/-- Any number of steps. -/
def Assembly.Reaches : Assembly → Assembly → Prop := Relation.ReflTransGen Assembly.Moves

/-- What every step keeps is kept by all of them. -/
theorem Assembly.Reaches.keeps {P : Assembly → Prop} {s next : Assembly} (h : s.Reaches next)
    (step : ∀ {mid after}, mid.Moves after → P mid → P after) (start : P s) : P next := by
  induction h with
  | refl => exact start
  | tail _ moves ih => exact step moves ih

/-- The new gates stand behind the others. -/
theorem Assembly.Moves.added {s next : Assembly} (h : s.Moves next) :
    ∃ added, next.gates.toList = s.gates.toList ++ added ∧ ∀ gate ∈ added, gate.IsGiven := by
  cases h with
  | emit given =>
      refine ⟨_, emit_gates .., fun gate mem => ?_⟩
      rw [List.mem_singleton.mp mem]
      exact given
  | warn warning => exact ⟨[], (List.append_nil _).symm, fun _ mem => nomatch mem⟩
  | bind name wire => exact ⟨[], (List.append_nil _).symm, fun _ mem => nomatch mem⟩

theorem Assembly.Reaches.added {s next : Assembly} (h : s.Reaches next) :
    ∃ added, next.gates.toList = s.gates.toList ++ added ∧ ∀ gate ∈ added, gate.IsGiven := by
  refine h.keeps (P := fun next => ∃ added, next.gates.toList = s.gates.toList ++ added ∧
    ∀ gate ∈ added, gate.IsGiven) ?_ ⟨[], (List.append_nil _).symm, fun _ mem => nomatch mem⟩
  rintro mid after moves ⟨first, before, given⟩
  obtain ⟨second, behind, given'⟩ := moves.added
  refine ⟨first ++ second, ?_, fun gate mem => ?_⟩
  · rw [← List.append_assoc, ← before, behind]
  · exact (List.mem_append.mp mem).elim (given gate) (given' gate)

end Steps

section Programs

/-- A program that takes such steps and does nothing else. -/
def Supplies {α : Type} (program : Assemble α) : Prop :=
  ∀ s : Assembly, s.Reaches (program.run s).2

variable {α β : Type}

theorem Supplies.pure (a : α) : Supplies (Pure.pure a) := fun _ => .refl

theorem Supplies.bind {program : Assemble α} {f : α → Assemble β} (h : Supplies program)
    (h' : ∀ a, Supplies (f a)) : Supplies (program >>= f) :=
  fun s => (h s).trans (h' (program.run s).1 (program.run s).2)

theorem emit_supplies {body : Body} {sources : List (Option Wire)}
    (given : body.isSink ∨ none ∉ sources) : Supplies (emit body sources) :=
  fun _ => .single (.emit given)

theorem warn_supplies (warning : Warning) : Supplies (warn warning) :=
  fun _ => .single (.warn warning)

theorem bind_supplies (name : String) (wire : Wire) : Supplies (bind name wire) :=
  fun _ => .single (.bind name wire)

theorem constant_supplies (value : Float) : Supplies (constant value) :=
  emit_supplies (.inr List.not_mem_nil)

end Programs

section Expressions

theorem readName_supplies (token : Token) : Supplies (readName token) := by
  intro s
  rw [readName_run]
  cases s.symbols.lookup token.text with
  | some wire => exact Supplies.pure wire s
  | none => exact ((warn_supplies (.unbound token)).bind fun _ => constant_supplies 0.0) s

theorem Expr.emit_supplies (e : Expr) : Supplies e.emit := by
  induction e with
  | number value => exact constant_supplies value
  | name token => exact readName_supplies token
  | absolute inner ih => exact ih.bind fun _ => Script.emit_supplies (.inr (by simp))
  | binary op left right ihl ihr =>
      exact ihl.bind fun _ => ihr.bind fun _ => Script.emit_supplies (.inr (by simp))

theorem emitAll_supplies (es : List Expr) : Supplies (emitAll es) := by
  induction es with
  | nil => exact .pure []
  | cons e es ih => exact e.emit_supplies.bind fun _ => ih.bind fun _ => .pure _

end Expressions

section Statements

theorem nest_supplies (outer : Option Wire) (inner : Wire) : Supplies (nest outer inner) := by
  cases outer with
  | none => exact .pure inner
  | some wire => exact emit_supplies (.inr (by simp))

theorem assign_supplies (condition : Option Wire) (name : String) (wire : Wire) :
    Supplies (assign condition name wire) := by
  intro s
  rw [assign_run]
  cases condition with
  | none => exact bind_supplies name wire s
  | some test =>
      cases s.symbols.lookup name with
      | none => exact bind_supplies name wire s
      | some prior =>
          exact ((emit_supplies (.inr (by simp))).bind fun _ => bind_supplies name _) s

theorem trigger_supplies (condition : Option Wire) : Supplies (trigger condition) := by
  cases condition with
  | none => exact constant_supplies 1.0
  | some wire => exact .pure wire

theorem Sink.sources_supplies (sink : Sink) (condition : Option Wire) (args : List Wire) :
    Supplies (sink.sources condition args) := by
  cases sink with
  | beep => exact (trigger_supplies condition).bind fun _ => .pure _
  | color => exact .pure _
  | screen =>
      rw [Sink.sources]
      split
      · exact (trigger_supplies condition).bind fun _ => .pure _
      · exact .pure _

theorem call_supplies (condition : Option Wire) (callee : Token) (args : List Wire) :
    Supplies (call condition callee args) := by
  rw [call]
  split
  · rename_i sink _
    refine (sink.sources_supplies condition args).bind fun _ =>
      (emit_supplies (.inl sink.body_isSink)).bind fun _ => ?_
    split
    · exact warn_supplies _
    · exact .pure ()
  · exact warn_supplies _

mutual

theorem Stmt.emit_supplies (condition : Option Wire) :
    ∀ stmt : Stmt, Supplies (stmt.emit condition)
  | .declare name value => by
      rw [Stmt.emit]
      exact value.emit_supplies.bind fun _ => bind_supplies name _
  | .assign name value => by
      rw [Stmt.emit]
      exact value.emit_supplies.bind fun _ => assign_supplies condition name _
  | .call callee args => by
      rw [Stmt.emit]
      exact (emitAll_supplies args).bind fun _ => call_supplies condition callee _
  | .when inner body => by
      rw [Stmt.emit]
      exact inner.emit_supplies.bind fun _ => (nest_supplies condition _).bind fun effective =>
        emitBody_supplies (some effective) body

theorem emitBody_supplies (condition : Option Wire) :
    ∀ body : List Stmt, Supplies (emitBody condition body)
  | [] => by
      rw [emitBody]
      exact .pure ()
  | stmt :: stmts => by
      rw [emitBody]
      exact (stmt.emit_supplies condition).bind fun _ => emitBody_supplies condition stmts

end

end Statements

section Readings

theorem emitBlocks_supplies (blocks : List Block) : Supplies (emitBlocks blocks) := by
  induction blocks with
  | nil => exact .pure none
  | cons block outer ih =>
      exact ih.bind fun condition => (emitBody_supplies condition block.before).bind fun _ =>
        block.condition.emit_supplies.bind fun _ => (nest_supplies condition _).bind fun _ =>
          .pure _

theorem Phase.emit_supplies (phase : Phase) (condition : Option Wire) :
    Supplies (phase.emit condition) := by
  cases phase with
  | opening inner =>
      exact inner.emit_supplies.bind fun _ => (nest_supplies _ _).bind fun _ => .pure ()
  | expression goal formula => exact (emitAll_supplies _).bind fun _ => .pure ()
  | _ => exact .pure ()

/-- Whatever has been read of a script. -/
theorem Reading.emit_supplies (r : Reading) : Supplies r.emit :=
  (emitBlocks_supplies r.blocks).bind fun condition =>
    (emitBody_supplies condition r.body).bind fun _ => r.phase.emit_supplies condition

/-- A script is assembled by steps from nothing. -/
theorem compile_reached (source : String) : Assembly.Reaches {} (compile source).assembly :=
  (read (tokens source)).1.emit_supplies {}

theorem compile_given (source : String) : ∀ gate ∈ (compile source).gates.toList, gate.IsGiven := by
  obtain ⟨added, gates, given⟩ := (compile_reached source).added
  rw [gates]
  exact given

end Readings

end SignalGraph.Script
