import SignalGraph.Proofs.Outcome
import SignalGraph.Proofs.Script.Given

/-!
Gates made while a script is read. Assembling only appends gates, and one more token leaves the gates
of what has been read before it first, but for the word `abs` at the end: the next token decides
whether it is a name. So a reading that stops at a fault has kept all gates that were made before.
-/

namespace SignalGraph.Script

section Programs

/-- A program that only appends gates. -/
def Appends {α : Type} (program : Assemble α) : Prop :=
  ∀ s : Assembly, s.gates.toList <+: (program.run s).2.gates.toList

/-- From whatever assembly both start, the gates after the first program stand first after the
second one. -/
def Precedes {α β : Type} (earlier : Assemble α) (later : Assemble β) : Prop :=
  ∀ s : Assembly, (earlier.run s).2.gates.toList <+: (later.run s).2.gates.toList

variable {α β γ : Type}

theorem Precedes.refl (program : Assemble α) : Precedes program program :=
  fun _ => List.prefix_refl _

theorem Precedes.trans {first : Assemble α} {second : Assemble β} {third : Assemble γ}
    (h : Precedes first second) (h' : Precedes second third) : Precedes first third :=
  fun s => (h s).trans (h' s)

/-- Two programs that start alike. -/
theorem Precedes.bind {program : Assemble α} {f : α → Assemble β} {g : α → Assemble γ}
    (h : ∀ a, Precedes (f a) (g a)) : Precedes (program >>= f) (program >>= g) :=
  fun s => h (program.run s).1 (program.run s).2

/-- A program that goes on. -/
theorem Appends.precedes {program : Assemble α} {f : α → Assemble β} (h : ∀ a, Appends (f a)) :
    Precedes program (program >>= f) :=
  fun s => h (program.run s).1 (program.run s).2

theorem Appends.bind {program : Assemble α} {f : α → Assemble β} (h : Appends program)
    (h' : ∀ a, Appends (f a)) : Appends (program >>= f) :=
  fun s => (h s).trans (h' (program.run s).1 (program.run s).2)

theorem emit_appends (body : Body) (sources : List (Option Wire)) :
    Appends (emit body sources) := by
  intro s
  rw [emit_gates]
  exact List.prefix_append _ _

/-- What is known of the appended gates does not matter here. -/
theorem Supplies.appends {program : Assemble α} (h : Supplies program) : Appends program := by
  intro s
  obtain ⟨added, gates, -⟩ := (h s).added
  rw [gates]
  exact List.prefix_append _ _

end Programs

section Expressions

theorem emitAll_append (xs ys : List Expr) (s : Assembly) :
    ((emitAll (xs ++ ys)).run s).2 = ((emitAll ys).run ((emitAll xs).run s).2).2 := by
  induction xs generalizing s with
  | nil => rfl
  | cons x xs ih => exact ih (x.emit.run s).2

theorem precedes_append {es fs : List Expr} (h : Precedes (emitAll es) (emitAll fs))
    (before : List Expr) : Precedes (emitAll (before ++ es)) (emitAll (before ++ fs)) := by
  intro s
  rw [emitAll_append, emitAll_append]
  exact h _

/-- The expression to the left of an operator, if there is one. -/
def Left.values (left : Left) : List Expr := (left.map Prod.fst).toList

theorem Left.precedes_join (left : Left) (right : Expr) :
    Precedes (emitAll left.values) (emitAll [left.join right]) := by
  cases left with
  | none => exact (emitAll_supplies [right]).appends
  | some pair =>
      obtain ⟨value, op⟩ := pair
      intro s
      exact (right.emit_supplies.appends.bind fun second =>
        emit_appends op.body [some _, some second]) _

theorem Paren.precedes_close (paren : Paren) (inner : Expr) :
    Precedes (emitAll (paren.left.values ++ [inner])) (emitAll [paren.close inner]) := by
  obtain ⟨left, absolute⟩ := paren
  cases left with
  | none =>
      cases absolute with
      | false => exact .refl _
      | true => exact fun s => emit_appends (.math .abs) [some _] _
  | some pair =>
      obtain ⟨value, op⟩ := pair
      cases absolute with
      | false => exact fun s => emit_appends op.body [some _, some _] _
      | true =>
          exact fun s => ((emit_appends (.math .abs) [some _]).bind fun second =>
            emit_appends op.body [some _, some second]) _

/-- The expressions to the left of open parentheses, the outermost first. -/
def lefts (parens : List Paren) : List Expr :=
  parens.reverse.filterMap fun paren => paren.left.map Prod.fst

theorem lefts_cons (paren : Paren) (outer : List Paren) :
    lefts (paren :: outer) = lefts outer ++ paren.left.values := by
  rw [lefts, List.reverse_cons, List.filterMap_append]
  obtain ⟨left, absolute⟩ := paren
  cases left <;> rfl

/-- What has been read for certain: the word `abs` may still turn out to be no operand. -/
def Formula.certain (formula : Formula) : Formula :=
  match formula.hand with
  | .word left _ => { formula with hand := .wanting left }
  | _ => formula

/-- Of a formula with a whole chain at hand, the last operand is this chain. -/
theorem Formula.follow_precedes {parens : List Paren} {value : Expr} {t : Token} {next : Formula}
    (h : Formula.follow parens value t = .shifted next) :
    Precedes (emitAll (lefts parens ++ [value])) (emitAll next.certain.operands) := by
  unfold Formula.follow at h
  split at h
  · obtain rfl := Formula.Step.shifted.inj h
    exact .refl _
  · cases parens with
    | nil => cases h
    | cons paren outer =>
        simp only at h
        split at h
        · obtain rfl := Formula.Step.shifted.inj h
          rw [lefts_cons, List.append_assoc]
          exact precedes_append (paren.precedes_close value) (lefts outer)
        · cases h

theorem Formula.operand_precedes {absBound : Bool} {parens : List Paren} {left : Left} {t : Token}
    {next : Formula} (h : Formula.operand absBound parens left t = .shifted next) :
    Precedes (emitAll (lefts parens ++ left.values)) (emitAll next.certain.operands) := by
  rw [Formula.operand] at h
  split at h
  · split at h
    · obtain rfl := Formula.Step.shifted.inj h
      exact precedes_append (left.precedes_join _) (lefts parens)
    · cases h
  · split at h
    · obtain rfl := Formula.Step.shifted.inj h
      change Precedes _ (emitAll (lefts ({ left, absolute := false } :: parens) ++ []))
      rw [lefts_cons, List.append_nil]
      exact .refl _
    · split at h
      · cases h
      · split at h
        · obtain rfl := Formula.Step.shifted.inj h
          exact .refl _
        · obtain rfl := Formula.Step.shifted.inj h
          exact precedes_append (left.precedes_join _) (lefts parens)

/-- One more token of an expression leaves the gates of its operands first. -/
theorem Formula.step_precedes {absBound : Bool} {formula next : Formula} {t : Token}
    (h : formula.step absBound t = .shifted next) :
    Precedes (emitAll formula.certain.operands) (emitAll next.certain.operands) := by
  obtain ⟨parens, hand⟩ := formula
  cases hand with
  | wanting left => exact Formula.operand_precedes h
  | holding value => exact Formula.follow_precedes h
  | word left token =>
      have joined : Precedes (emitAll (lefts parens ++ left.values))
          (emitAll (lefts parens ++ [left.join (.name token)])) :=
        precedes_append (left.precedes_join _) (lefts parens)
      simp only [Formula.step] at h
      split at h
      · obtain rfl := Formula.Step.shifted.inj h
        change Precedes _ (emitAll (lefts ({ left, absolute := true } :: parens) ++ []))
        rw [lefts_cons, List.append_nil]
        exact .refl _
      · exact joined.trans (Formula.follow_precedes h)

theorem Formula.certain_precedes (formula : Formula) :
    Precedes (emitAll formula.certain.operands) (emitAll formula.operands) := by
  obtain ⟨parens, hand⟩ := formula
  cases hand with
  | wanting left => exact .refl _
  | holding value => exact .refl _
  | word left token => exact precedes_append (left.precedes_join _) (lefts parens)

/-- A whole expression is the only operand. -/
theorem Formula.operands_of_value? {formula : Formula} {value : Expr}
    (h : formula.value? = some value) : formula.operands = [value] := by
  obtain ⟨parens, hand⟩ := formula
  cases parens with
  | cons paren outer => cases h
  | nil =>
      cases hand with
      | wanting left => cases h
      | holding other => exact congrArg (fun e => [e]) (Option.some.inj h)
      | word left token => exact congrArg (fun e => [e]) (Option.some.inj h)

theorem Formula.value?_of_finished {absBound : Bool} {formula : Formula} {t : Token} {value : Expr}
    (h : formula.step absBound t = .finished value) : formula.value? = some value := by
  have followed {parens : List Paren} {operand : Expr}
      (h : Formula.follow parens operand t = .finished value) : parens = [] ∧ operand = value := by
    unfold Formula.follow at h
    split at h
    · cases h
    · cases parens with
      | nil => exact ⟨rfl, Formula.Step.finished.inj h⟩
      | cons paren outer =>
          simp only at h
          split at h <;> cases h
  obtain ⟨parens, hand⟩ := formula
  cases hand with
  | wanting left =>
      simp only [Formula.step, Formula.operand] at h
      repeat' split at h
      all_goals cases h
  | holding operand =>
      obtain ⟨rfl, rfl⟩ := followed h
      rfl
  | word left token =>
      simp only [Formula.step] at h
      split at h
      · cases h
      · obtain ⟨rfl, rfl⟩ := followed h
        rfl

end Expressions

section Readings

def Phase.certain : Phase → Phase
  | .expression goal formula => .expression goal formula.certain
  | phase => phase

/-- A reading without a word `abs` at its end. -/
def Reading.certain (r : Reading) : Reading := { r with phase := r.phase.certain }

/-- The gates of all that has been read for certain. -/
def Reading.gates (r : Reading) : List Gate := (r.certain.emit.run {}).2.gates.toList

theorem emitBody_concat (condition : Option Wire) (body : List Stmt) (stmt : Stmt) (s : Assembly) :
    (emitBody condition (body ++ [stmt])).run s =
      (stmt.emit condition).run ((emitBody condition body).run s).2 := by
  induction body generalizing s with
  | nil =>
      rw [List.nil_append, emitBody, emitBody]
      rfl
  | cons first body ih =>
      rw [List.cons_append, emitBody, emitBody]
      exact ih ((first.emit condition).run s).2

variable {blocks : List Block} {body : List Stmt} {absBound absBound' : Bool}

/-- Two readings that differ in their phases only. -/
theorem precedes_of_phase {phase phase' : Phase}
    (h : ∀ condition, Precedes (phase.emit condition) (phase'.emit condition)) :
    Precedes (Reading.emit { blocks, body, phase, absBound })
      (Reading.emit { blocks, body, phase := phase', absBound := absBound' }) :=
  Precedes.bind fun condition => Precedes.bind fun _ => h condition

/-- A statement that becomes complete. -/
theorem precedes_push {phase : Phase} {stmt : Stmt}
    (h : ∀ condition, Precedes (phase.emit condition) (stmt.emit condition)) :
    Precedes (Reading.emit { blocks, body, phase, absBound })
      (Reading.emit
        { blocks, body := body ++ [stmt], phase := .ready, absBound := absBound' }) := by
  refine Precedes.bind fun condition s => ?_
  change _ <+: ((emitBody condition (body ++ [stmt])).run s).2.gates.toList
  rw [emitBody_concat]
  exact h condition _

/-- A phase in which nothing is at hand. -/
def Phase.IsIdle (phase : Phase) : Prop := ∀ condition, phase.emit condition = pure ()

/-- After nothing at hand, anything may be. -/
theorem precedes_of_idle {phase : Phase} (idle : phase.IsIdle) (phase' : Phase) :
    Precedes (Reading.emit { blocks, body, phase, absBound })
      (Reading.emit { blocks, body, phase := phase', absBound }) := by
  apply precedes_of_phase
  intro condition
  rw [idle condition]
  exact (phase'.emit_supplies condition).appends

/-- A token where a statement is due. The gates of a block that it closes stay. -/
theorem Reading.start_precedes {next : Reading} {phase : Phase} {t : Token} (idle : phase.IsIdle)
    (h : Reading.start { blocks, body, phase, absBound } t = .ok next) :
    Precedes (Reading.emit { blocks, body, phase, absBound }) next.certain.emit := by
  rw [Reading.start] at h
  split at h
  · cases blocks with
    | nil => cases h
    | cons block outer =>
        obtain rfl := Except.ok.inj h
        refine (precedes_of_idle idle .ready).trans fun s => ?_
        change _ <+: ((emitBody _ (block.before ++ [.when block.condition body])).run _).2.gates.toList
        rw [emitBody_concat, Stmt.emit]
        exact List.prefix_refl _
  · repeat' split at h
    all_goals
      obtain rfl := Except.ok.inj h
      exact precedes_of_idle idle _

variable {next : Reading} {goal : Goal} {formula : Formula} {t : Token}

section Whole

variable {value : Expr} (whole : formula.operands = [value])

include whole

theorem precedes_whole : Precedes (emitAll formula.operands) value.emit := by
  rw [whole]
  exact fun s => List.prefix_refl _

/-- A whole expression at hand becomes what a name is declared with. -/
theorem precedes_declare (name : String) :
    Precedes
      (Reading.emit { blocks, body, phase := .expression (.declaration name) formula, absBound })
      (Reading.emit { blocks, body := body ++ [.declare name value], phase := .ready,
                      absBound := absBound' }) := by
  apply precedes_push
  intro condition
  rw [Stmt.emit]
  exact (precedes_whole whole).trans (Appends.precedes fun wire => (bind_supplies name wire).appends)

/-- A whole expression at hand becomes what a name is assigned. -/
theorem precedes_assign (name : String) :
    Precedes
      (Reading.emit { blocks, body, phase := .expression (.assignment name) formula, absBound })
      (Reading.emit { blocks, body := body ++ [.assign name value], phase := .ready,
                      absBound := absBound' }) := by
  apply precedes_push
  intro condition
  rw [Stmt.emit]
  exact (precedes_whole whole).trans
    (Appends.precedes fun wire => (assign_supplies condition name wire).appends)

end Whole

/-- A token after a whole expression. -/
theorem Reading.finish_precedes {value : Expr} (whole : formula.operands = [value])
    (h : Reading.finish { blocks, body, phase := .expression goal formula, absBound } goal value t =
      .ok next) :
    Precedes (Reading.emit { blocks, body, phase := .expression goal formula, absBound })
      next.certain.emit := by
  cases goal with
  | declaration name =>
      exact (precedes_declare whole name).trans (Reading.start_precedes (fun _ => rfl) h)
  | assignment name =>
      exact (precedes_assign whole name).trans (Reading.start_precedes (fun _ => rfl) h)
  | condition =>
      rw [Reading.finish] at h
      split at h
      · obtain rfl := Except.ok.inj h
        refine precedes_of_phase fun condition => (precedes_whole whole).trans ?_
        exact Appends.precedes fun wire =>
          ((nest_supplies condition wire).bind fun _ => .pure ()).appends
      · cases h
  | argument callee args =>
      have given : Precedes (emitAll (args ++ formula.operands)) (emitAll (args ++ [value])) := by
        rw [whole]
        exact .refl _
      rw [Reading.finish] at h
      split at h
      · obtain rfl := Except.ok.inj h
        refine precedes_push fun condition => ?_
        rw [Stmt.emit]
        exact given.trans
          (Appends.precedes fun wires => (call_supplies condition callee wires).appends)
      · split at h
        · obtain rfl := Except.ok.inj h
          refine precedes_of_phase fun condition => ?_
          change Precedes _ (emitAll ((args ++ [value]) ++ []))
          rw [List.append_nil]
          exact given
        · cases h

/-- A token inside an expression. -/
theorem Reading.advance_precedes
    (h : Reading.advance { blocks, body, phase := .expression goal formula, absBound } goal formula
      t = .ok next) :
    Precedes
      (Reading.emit { blocks, body, phase := .expression goal formula.certain, absBound })
      next.certain.emit := by
  rw [Reading.advance] at h
  split at h
  · rename_i shifted step
    obtain rfl := Except.ok.inj h
    refine precedes_of_phase fun condition => ?_
    exact precedes_append (Formula.step_precedes step) _
  · rename_i value step
    have whole := Formula.operands_of_value? (Formula.value?_of_finished step)
    refine Precedes.trans (precedes_of_phase fun condition => ?_)
      (Reading.finish_precedes whole h)
    exact precedes_append formula.certain_precedes _
  · cases h

theorem Phase.eq_of_emptyCall? {phase : Phase} {callee : Token}
    (h : phase.emptyCall? = some callee) : phase = .expression (.argument callee []) .empty := by
  unfold Phase.emptyCall? at h
  split at h
  · obtain rfl := Option.some.inj h
    rfl
  · cases h

/-- One more token leaves the gates of what has been read for certain first. -/
theorem Reading.shift_precedes {r : Reading} (h : r.shift t = .ok next) :
    Precedes r.certain.emit next.certain.emit := by
  obtain ⟨blocks, body, phase, absBound⟩ := r
  cases phase with
  | ready => exact Reading.start_precedes (fun _ => rfl) h
  | declaration =>
      simp only [Reading.shift] at h
      split at h
      · obtain rfl := Except.ok.inj h
        exact precedes_of_idle (fun _ => rfl) _
      · cases h
  | declared name =>
      simp only [Reading.shift] at h
      split at h
      · obtain rfl := Except.ok.inj h
        exact precedes_of_idle (fun _ => rfl) _
      · exact Reading.start_precedes (fun _ => rfl) h
  | condition =>
      simp only [Reading.shift] at h
      split at h
      · obtain rfl := Except.ok.inj h
        exact precedes_of_idle (fun _ => rfl) _
      · cases h
  | opening condition =>
      simp only [Reading.shift] at h
      split at h
      · obtain rfl := Except.ok.inj h
        exact fun s => List.prefix_refl _
      · cases h
  | creation =>
      simp only [Reading.shift] at h
      split at h
      · obtain rfl := Except.ok.inj h
        exact precedes_of_idle (fun _ => rfl) _
      · cases h
  | callee name =>
      simp only [Reading.shift] at h
      split at h
      · obtain rfl := Except.ok.inj h
        exact precedes_of_idle (fun _ => rfl) _
      · cases h
  | word name =>
      simp only [Reading.shift] at h
      split at h
      · obtain rfl := Except.ok.inj h
        exact precedes_of_idle (fun _ => rfl) _
      · split at h
        · obtain rfl := Except.ok.inj h
          exact precedes_of_idle (fun _ => rfl) _
        · exact Reading.start_precedes (fun _ => rfl) h
  | expression goal formula =>
      simp only [Reading.shift] at h
      split at h
      · rename_i callee empty
        split at h
        · -- a call without arguments has left no gates yet
          obtain rfl := Except.ok.inj h
          obtain ⟨rfl, rfl⟩ := Phase.expression.inj (Phase.eq_of_emptyCall? empty)
          exact precedes_push fun condition => (Stmt.emit_supplies condition _).appends
        · exact Reading.advance_precedes h
      · exact Reading.advance_precedes h

/-- Settling a reading adds to its gates at most what its last statement is still due. -/
theorem Reading.settle_precedes (r : Reading) : Precedes r.certain.emit r.settle.emit := by
  obtain ⟨blocks, body, phase, absBound⟩ := r
  cases phase with
  | expression goal formula =>
      have kept : Precedes
          (Reading.emit { blocks, body, phase := .expression goal formula.certain, absBound })
          (Reading.emit { blocks, body, phase := .expression goal formula, absBound }) := by
        apply precedes_of_phase
        intro condition
        exact precedes_append formula.certain_precedes _
      cases value : formula.value? with
      | none =>
          have same : Reading.settle { blocks, body, phase := .expression goal formula, absBound } =
              { blocks, body, phase := .expression goal formula, absBound } := by
            cases goal <;> simp only [Reading.settle, value]
          rw [same]
          exact kept
      | some whole =>
          have only := Formula.operands_of_value? value
          cases goal with
          | declaration name =>
              simp only [Reading.settle, value]
              exact kept.trans (precedes_declare only name)
          | assignment name =>
              simp only [Reading.settle, value]
              exact kept.trans (precedes_assign only name)
          | condition => exact kept
          | argument callee args => exact kept
  | _ => exact fun s => List.prefix_refl _

theorem Reading.step_gates {r : Reading} (h : r.step t = .ok next) : r.gates <+: next.gates := by
  rw [Reading.step] at h
  split at h
  · cases h
  · rename_i shifted shift
    split at h
    · cases h
    · obtain rfl := Except.ok.inj h
      exact Reading.shift_precedes shift {}

end Readings

section Runs

/-- Tokens after others add gates behind those that were certain before. -/
theorem Reading.gates_of_reads {r last : Reading} {ts : List Token}
    (h : ts.foldlM Reading.step r = .ok last) : r.gates <+: last.gates := by
  induction ts generalizing r with
  | nil =>
      obtain rfl := pure_eq_ok.mp h
      exact List.prefix_refl _
  | cons t ts ih =>
      rw [List.foldlM_cons] at h
      obtain ⟨next, step, rest⟩ := bind_eq_ok.mp h
      exact (Reading.step_gates step).trans (ih rest)

/-- A script is read up to a fault: the tokens before it, and the reading that they leave. Either the
next token is refused, or the script may not end there. -/
structure Stops (script before : List Token) (last : Reading) (fault : Fault) : Prop where
  reads : before.foldlM Reading.step .empty = .ok last
  fails : ∃ after, script = before ++ after ∧
    match after with
    | t :: _ => last.step t = .error fault
    | [] => last.settle.endFault? (script.getLast?.map (·.place)) = some fault

theorem Reading.run_reads (r : Reading) (ts : List Token) :
    ∃ before after last, ts = before ++ after ∧ before.foldlM Reading.step r = .ok last ∧
      match after with
      | t :: _ => ∃ fault, last.step t = .error fault ∧ r.run ts = (last.settle, some fault)
      | [] => r.run ts = (last.settle, none) := by
  induction ts generalizing r with
  | nil => exact ⟨[], [], r, rfl, rfl, rfl⟩
  | cons t ts ih =>
      cases step : r.step t with
      | error fault =>
          refine ⟨[], t :: ts, r, rfl, rfl, fault, step, ?_⟩
          rw [Reading.run, step]
      | ok next =>
          obtain ⟨before, after, last, rfl, reads, ends⟩ := ih next
          refine ⟨t :: before, after, last, rfl, ?_, ?_⟩
          · rw [List.foldlM_cons, step]
            exact reads
          · rw [Reading.run, step]
            exact ends

/-- A script that is refused leaves the reading of the tokens before the fault. -/
theorem read_stops {script : List Token} {r : Reading} {fault : Fault}
    (h : read script = (r, some fault)) :
    ∃ before last, Stops script before last fault ∧ r = last.settle := by
  obtain ⟨before, after, last, split, reads, ends⟩ :=
    Reading.run_reads .empty script
  rw [read] at h
  cases after with
  | nil =>
      simp only at ends
      simp only [ends] at h
      obtain ⟨rfl, fails⟩ := Prod.mk.inj h
      exact ⟨before, last, ⟨reads, [], split, fails⟩, rfl⟩
  | cons t after =>
      obtain ⟨found, fails, ends⟩ := ends
      simp only [ends] at h
      obtain ⟨rfl, same⟩ := Prod.mk.inj h
      obtain rfl := Option.some.inj same
      exact ⟨before, last, ⟨reads, t :: after, split, fails⟩, rfl⟩

/-- What a refused script has as its gates: all that were certain at any time before the fault stand
first. -/
theorem Stops.gates {script before : List Token} {last : Reading} {fault : Fault}
    (h : Stops script before last fault) {earlier : List Token} {r : Reading}
    (early : earlier <+: before) (reads : earlier.foldlM Reading.step .empty = .ok r) :
    r.gates <+: (last.settle.emit.run {}).2.gates.toList := by
  obtain ⟨more, rfl⟩ := early
  have whole := h.reads
  rw [List.foldlM_append, reads] at whole
  exact (Reading.gates_of_reads whole).trans (last.settle_precedes {})

end Runs

end SignalGraph.Script
