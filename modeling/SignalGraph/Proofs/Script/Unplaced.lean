import SignalGraph.Proofs.Script.Effects
import SignalGraph.Proofs.Script.Lexeme
import SignalGraph.Script.Compile

/-!
Places have no influence. Tokens whose places are taken away are read and assembled into what is
left of the same states when the places are taken away there, so the places in a text come to light
only where a fault or a warning names them.
-/

namespace SignalGraph.Script

section Trees

/-- A token as if it stood first in its text. -/
def Token.unplaced (t : Token) : Token := { t with place := .first }

theorem Token.unplaced_text (t : Token) : t.unplaced.text = t.text := rfl

theorem Token.unplaced_kind (t : Token) : t.unplaced.kind = t.kind := rfl

theorem Token.unplaced_isName (t : Token) : t.unplaced.isName = t.isName := rfl

def Expr.unplaced : Expr → Expr
  | .number value => .number value
  | .name token => .name token.unplaced
  | .absolute inner => .absolute inner.unplaced
  | .binary op left right => .binary op left.unplaced right.unplaced

mutual

def Stmt.unplaced : Stmt → Stmt
  | .declare name value => .declare name value.unplaced
  | .assign name value => .assign name value.unplaced
  | .call callee args => .call callee.unplaced (args.map Expr.unplaced)
  | .when condition body => .when condition.unplaced (unplacedBody body)

def unplacedBody : List Stmt → List Stmt
  | [] => []
  | stmt :: stmts => stmt.unplaced :: unplacedBody stmts

end

theorem unplacedBody_concat (body : List Stmt) (stmt : Stmt) :
    unplacedBody (body ++ [stmt]) = unplacedBody body ++ [stmt.unplaced] := by
  induction body with
  | nil => rfl
  | cons first body ih => exact congrArg (first.unplaced :: ·) ih

end Trees

section Expressions

def Left.unplaced (left : Left) : Left := left.map fun (value, op) => (value.unplaced, op)

def Paren.unplaced (paren : Paren) : Paren := { paren with left := paren.left.unplaced }

def Hand.unplaced : Hand → Hand
  | .wanting left => .wanting left.unplaced
  | .word left token => .word left.unplaced token.unplaced
  | .holding value => .holding value.unplaced

def Formula.unplaced (formula : Formula) : Formula :=
  { parens := formula.parens.map Paren.unplaced, hand := formula.hand.unplaced }

def Formula.Step.unplaced : Formula.Step → Formula.Step
  | .shifted formula => .shifted formula.unplaced
  | .finished value => .finished value.unplaced
  | .refused cause => .refused cause

theorem Left.join_unplaced (left : Left) (right : Expr) :
    left.unplaced.join right.unplaced = (left.join right).unplaced := by
  cases left <;> rfl

theorem Paren.close_unplaced (paren : Paren) (inner : Expr) :
    paren.unplaced.close inner.unplaced = (paren.close inner).unplaced := by
  obtain ⟨left, absolute⟩ := paren
  cases absolute with
  | false => exact left.join_unplaced inner
  | true => exact left.join_unplaced (.absolute inner)

theorem Formula.operand_unplaced (absBound : Bool) (parens : List Paren) (left : Left) (t : Token) :
    Formula.operand absBound (parens.map Paren.unplaced) left.unplaced t.unplaced =
      (Formula.operand absBound parens left t).unplaced := by
  rw [Formula.operand, Formula.operand, t.unplaced_kind, t.unplaced_text, t.unplaced_isName]
  split
  · split
    · rename_i value _
      rw [Formula.Step.unplaced, Formula.unplaced, Hand.unplaced, ← left.join_unplaced]
      rfl
    · rfl
  · split
    · rfl
    · split
      · rfl
      · split
        · rfl
        · rw [Formula.Step.unplaced, Formula.unplaced, Hand.unplaced, ← left.join_unplaced]
          rfl

theorem Formula.follow_unplaced (parens : List Paren) (value : Expr) (t : Token) :
    Formula.follow (parens.map Paren.unplaced) value.unplaced t.unplaced =
      (Formula.follow parens value t).unplaced := by
  simp only [Formula.follow]
  rw [t.unplaced_text]
  split
  · rfl
  · cases parens with
    | nil => rfl
    | cons paren outer =>
        simp only [List.map_cons]
        split
        · rw [paren.close_unplaced]
          rfl
        · rfl

theorem Formula.step_unplaced (absBound : Bool) (formula : Formula) (t : Token) :
    formula.unplaced.step absBound t.unplaced = (formula.step absBound t).unplaced := by
  obtain ⟨parens, hand⟩ := formula
  cases hand with
  | wanting left => exact Formula.operand_unplaced absBound parens left t
  | holding value => exact Formula.follow_unplaced parens value t
  | word left token =>
      simp only [Formula.step, Formula.unplaced, Hand.unplaced]
      rw [t.unplaced_text]
      split
      · rfl
      · rw [← Formula.follow_unplaced, ← left.join_unplaced]
        rfl

theorem Formula.value?_unplaced (formula : Formula) :
    formula.unplaced.value? = formula.value?.map Expr.unplaced := by
  obtain ⟨parens, hand⟩ := formula
  cases parens with
  | cons paren outer => rfl
  | nil =>
      cases hand with
      | wanting left => rfl
      | holding value => rfl
      | word left token => exact congrArg some (left.join_unplaced (.name token))

theorem Formula.endCause_unplaced (formula : Formula) :
    formula.unplaced.endCause = formula.endCause := by
  obtain ⟨parens, hand⟩ := formula
  cases hand <;> rfl

theorem Formula.operands_unplaced (formula : Formula) :
    formula.unplaced.operands = formula.operands.map Expr.unplaced := by
  obtain ⟨parens, hand⟩ := formula
  have lefts : (parens.map Paren.unplaced).reverse.filterMap (fun paren => paren.left.map Prod.fst) =
      (parens.reverse.filterMap fun paren => paren.left.map Prod.fst).map Expr.unplaced := by
    rw [← List.map_reverse, List.filterMap_map, List.map_filterMap]
    congr
    funext paren
    obtain ⟨left, absolute⟩ := paren
    cases left <;> rfl
  cases hand with
  | wanting left =>
      simp only [Formula.operands, Formula.unplaced, Hand.unplaced, lefts, List.map_append]
      cases left <;> rfl
  | holding value =>
      simp only [Formula.operands, Formula.unplaced, Hand.unplaced, lefts, List.map_append]
      rfl
  | word left token =>
      simp only [Formula.operands, Formula.unplaced, Hand.unplaced, lefts, List.map_append]
      exact congrArg (_ ++ [·]) (left.join_unplaced (.name token))

end Expressions

section Readings

def Goal.unplaced : Goal → Goal
  | .argument callee args => .argument callee.unplaced (args.map Expr.unplaced)
  | goal => goal

def Phase.unplaced : Phase → Phase
  | .opening tested => .opening tested.unplaced
  | .callee name => .callee name.unplaced
  | .word name => .word name.unplaced
  | .expression goal formula => .expression goal.unplaced formula.unplaced
  | phase => phase

def Block.unplaced (block : Block) : Block :=
  { before := unplacedBody block.before, condition := block.condition.unplaced
    brace := block.brace.unplaced }

def Reading.unplaced (r : Reading) : Reading :=
  { r with
    blocks := r.blocks.map Block.unplaced, body := unplacedBody r.body, phase := r.phase.unplaced }

/-- A fault that names no place but the front of a text. -/
def Fault.unplaced (fault : Fault) : Fault :=
  { fault with place := fault.place.map fun _ => .first }

theorem Reading.push_unplaced (r : Reading) (stmt : Stmt) :
    r.unplaced.push stmt.unplaced = (r.push stmt).unplaced := by
  simp only [Reading.push, Reading.unplaced, unplacedBody_concat]
  cases stmt <;> simp only [Stmt.unplaced] <;> rfl

theorem Reading.start_unplaced (r : Reading) (t : Token) :
    r.unplaced.start t.unplaced = (r.start t).map Reading.unplaced := by
  obtain ⟨blocks, body, phase, absBound⟩ := r
  rw [Reading.start, Reading.start, t.unplaced_text, t.unplaced_isName]
  split
  · cases blocks with
    | nil => rfl
    | cons block outer =>
        simp only [Reading.unplaced, List.map_cons, Except.map, unplacedBody_concat, Stmt.unplaced]
        rfl
  · repeat' split
    all_goals rfl

theorem Reading.finish_unplaced (r : Reading) (goal : Goal) (value : Expr) (t : Token) :
    r.unplaced.finish goal.unplaced value.unplaced t.unplaced =
      (r.finish goal value t).map Reading.unplaced := by
  cases goal with
  | declaration name =>
      rw [Reading.finish, ← Reading.start_unplaced, ← Reading.push_unplaced, Stmt.unplaced]
      rfl
  | assignment name =>
      rw [Reading.finish, ← Reading.start_unplaced, ← Reading.push_unplaced, Stmt.unplaced]
      rfl
  | condition =>
      simp only [Reading.finish, Goal.unplaced]
      rw [t.unplaced_text]
      split <;> rfl
  | argument callee args =>
      have given : args.map Expr.unplaced ++ [value.unplaced] =
          (args ++ [value]).map Expr.unplaced := by
        rw [List.map_append]
        rfl
      simp only [Reading.finish, Goal.unplaced, given]
      rw [t.unplaced_text]
      split
      · exact congrArg Except.ok (r.push_unplaced (.call callee (args ++ [value])))
      · split <;> rfl

theorem Reading.advance_unplaced (r : Reading) (goal : Goal) (formula : Formula) (t : Token) :
    r.unplaced.advance goal.unplaced formula.unplaced t.unplaced =
      (r.advance goal formula t).map Reading.unplaced := by
  have step := formula.step_unplaced r.absBound t
  have bound : r.unplaced.absBound = r.absBound := rfl
  rw [Reading.advance, bound, step, Reading.advance]
  cases formula.step r.absBound t with
  | shifted next => rfl
  | finished value => exact r.finish_unplaced goal value t
  | refused cause => rfl

theorem Phase.emptyCall?_unplaced (phase : Phase) :
    phase.unplaced.emptyCall? = phase.emptyCall?.map Token.unplaced := by
  cases phase with
  | expression goal formula =>
      obtain ⟨parens, hand⟩ := formula
      cases goal with
      | argument callee args =>
          cases args <;> cases parens <;> cases hand <;> try rfl
          rename_i left
          cases left <;> rfl
      | _ => rfl
  | _ => rfl

/-- A token is read alike without its place. -/
theorem Reading.shift_unplaced (r : Reading) (t : Token) :
    r.unplaced.shift t.unplaced = (r.shift t).map Reading.unplaced := by
  obtain ⟨blocks, body, phase, absBound⟩ := r
  cases phase with
  | ready => exact Reading.start_unplaced { blocks, body, phase := .ready, absBound } t
  | declared name =>
      simp only [Reading.shift, Reading.unplaced, Phase.unplaced]
      rw [t.unplaced_text]
      split
      · rfl
      · exact Reading.start_unplaced { blocks, body, phase := .declared name, absBound } t
  | word name =>
      simp only [Reading.shift, Reading.unplaced, Phase.unplaced]
      rw [t.unplaced_text]
      split
      · rfl
      · split
        · rfl
        · exact Reading.start_unplaced { blocks, body, phase := .word name, absBound } t
  | expression goal formula =>
      have advance :=
        Reading.advance_unplaced { blocks, body, phase := .expression goal formula, absBound } goal
          formula t
      have empty := Phase.emptyCall?_unplaced (.expression goal formula)
      simp only [Phase.unplaced] at empty
      simp only [Reading.shift, Reading.unplaced, Phase.unplaced, empty]
      rw [t.unplaced_text]
      cases (Phase.expression goal formula).emptyCall? with
      | none => exact advance
      | some callee =>
          simp only [Option.map_some]
          split
          · refine congrArg Except.ok ?_
            exact Reading.push_unplaced
              { blocks, body, phase := .expression goal formula, absBound } (.call callee [])
          · exact advance
  | declaration | creation =>
      simp only [Reading.shift, Reading.unplaced, Phase.unplaced]
      rw [t.unplaced_isName]
      split <;> rfl
  | condition | opening | callee =>
      simp only [Reading.shift, Reading.unplaced, Phase.unplaced]
      rw [t.unplaced_text]
      split <;> rfl

theorem Reading.depth_unplaced (r : Reading) : r.unplaced.depth = r.depth := by
  obtain ⟨blocks, body, phase, absBound⟩ := r
  cases phase with
  | expression goal formula =>
      simp only [Reading.depth, Reading.unplaced, Phase.unplaced, Phase.depth, Formula.unplaced,
        List.length_map]
  | _ => simp only [Reading.depth, Reading.unplaced, Phase.unplaced, Phase.depth, List.length_map]

theorem Reading.step_unplaced (r : Reading) (t : Token) :
    r.unplaced.step t.unplaced =
      ((r.step t).map Reading.unplaced).mapError Fault.unplaced := by
  rw [Reading.step, Reading.step, Reading.shift_unplaced]
  cases r.shift t with
  | error cause => rfl
  | ok next =>
      simp only [Except.map, Reading.depth_unplaced]
      split <;> rfl

theorem Reading.settle_unplaced (r : Reading) : r.unplaced.settle = r.settle.unplaced := by
  obtain ⟨blocks, body, phase, absBound⟩ := r
  cases phase with
  | expression goal formula =>
      have value := formula.value?_unplaced
      cases goal with
      | declaration name =>
          simp only [Reading.settle, Reading.unplaced, Phase.unplaced, Goal.unplaced, value]
          cases formula.value? with
          | none => rfl
          | some value =>
              exact Reading.push_unplaced { blocks, body, phase := .ready, absBound }
                (.declare name value)
      | assignment name =>
          simp only [Reading.settle, Reading.unplaced, Phase.unplaced, Goal.unplaced, value]
          cases formula.value? with
          | none => rfl
          | some value =>
              exact Reading.push_unplaced { blocks, body, phase := .ready, absBound }
                (.assign name value)
      | _ => rfl
  | _ => rfl

theorem Reading.endFault?_unplaced (r : Reading) (last : Option Place) :
    r.unplaced.endFault? (last.map fun _ => .first) = (r.endFault? last).map Fault.unplaced := by
  obtain ⟨blocks, body, phase, absBound⟩ := r
  cases phase with
  | ready => cases blocks <;> rfl
  | expression goal formula =>
      have value := formula.value?_unplaced
      have cause := formula.endCause_unplaced
      simp only [Reading.endFault?, Reading.unplaced, Phase.unplaced, value, cause]
      cases formula.value? <;> cases goal <;> rfl
  | _ => rfl

theorem Reading.run_unplaced (r : Reading) (ts : List Token) :
    r.unplaced.run (ts.map Token.unplaced) =
      ((r.run ts).1.unplaced, (r.run ts).2.map Fault.unplaced) := by
  induction ts generalizing r with
  | nil => exact congrArg (·, none) r.settle_unplaced
  | cons t ts ih =>
      rw [List.map_cons, Reading.run, Reading.run, Reading.step_unplaced]
      cases r.step t with
      | error fault => exact congrArg (·, some fault.unplaced) r.settle_unplaced
      | ok next => exact ih next

/-- A script is read alike without its places. -/
theorem read_unplaced (ts : List Token) :
    read (ts.map Token.unplaced) = ((read ts).1.unplaced, (read ts).2.map Fault.unplaced) := by
  have run : Reading.empty.run (ts.map Token.unplaced) = _ := Reading.run_unplaced .empty ts
  have last : (ts.map Token.unplaced).getLast?.map (·.place) =
      (ts.getLast?.map (·.place)).map fun _ => .first := by
    rw [List.getLast?_map]
    cases ts.getLast? <;> rfl
  rw [read, run, read]
  cases Reading.empty.run ts with
  | mk r fault =>
      cases fault with
      | some fault => rfl
      | none =>
          refine Prod.ext rfl ?_
          change r.unplaced.endFault? ((ts.map Token.unplaced).getLast?.map (·.place)) = _
          rw [last]
          exact r.endFault?_unplaced _

end Readings

section Programs

def Warning.unplaced : Warning → Warning
  | .unbound token => .unbound token.unplaced
  | .unknownSink token => .unknownSink token.unplaced
  | .extraArguments sink count => .extraArguments sink count

def Assembly.unplaced (s : Assembly) : Assembly :=
  { s with warnings := s.warnings.map Warning.unplaced }

variable {α β : Type}

/-- A program that does what another one does, without the places. -/
def Unplaces (program bare : Assemble α) : Prop :=
  ∀ s : Assembly, bare.run s.unplaced = ((program.run s).1, (program.run s).2.unplaced)

theorem Unplaces.pure (a : α) : Unplaces (Pure.pure a) (Pure.pure a) := fun _ => rfl

theorem Unplaces.bind {program bare : Assemble α} {f g : α → Assemble β}
    (h : Unplaces program bare) (h' : ∀ a, Unplaces (f a) (g a)) :
    Unplaces (program >>= f) (bare >>= g) := by
  intro s
  rw [stateM_run_bind, stateM_run_bind, h s]
  exact h' _ _

theorem emit_unplaces (body : Body) (sources : List (Option Wire)) :
    Unplaces (emit body sources) (emit body sources) := fun _ => rfl

theorem warn_unplaces (warning : Warning) : Unplaces (warn warning) (warn warning.unplaced) := by
  intro s
  have warnings : s.unplaced.warnings ++ [warning.unplaced] =
      (s.warnings ++ [warning]).map Warning.unplaced := by
    rw [List.map_append]
    rfl
  exact congrArg (fun warnings => ((), { s with warnings })) warnings

theorem bind_unplaces (name : String) (wire : Wire) :
    Unplaces (bind name wire) (bind name wire) := fun _ => rfl

theorem constant_unplaces (value : Float) : Unplaces (constant value) (constant value) :=
  emit_unplaces _ _

theorem readName_unplaces (token : Token) :
    Unplaces (readName token) (readName token.unplaced) := by
  intro s
  have symbols : s.unplaced.symbols.lookup token.unplaced.text = s.symbols.lookup token.text := rfl
  rw [readName_run, readName_run, symbols]
  cases s.symbols.lookup token.text with
  | some wire => rfl
  | none => exact (warn_unplaces (.unbound token)).bind (fun _ => constant_unplaces 0.0) s

theorem Expr.emit_unplaces (e : Expr) : Unplaces e.emit e.unplaced.emit := by
  induction e with
  | number value => exact constant_unplaces value
  | name token => exact readName_unplaces token
  | absolute inner ih => exact ih.bind fun _ => Script.emit_unplaces _ _
  | binary op left right ihl ihr =>
      exact ihl.bind fun _ => ihr.bind fun _ => Script.emit_unplaces _ _

theorem emitAll_unplaces (es : List Expr) :
    Unplaces (emitAll es) (emitAll (es.map Expr.unplaced)) := by
  induction es with
  | nil => exact .pure []
  | cons e es ih => exact e.emit_unplaces.bind fun _ => ih.bind fun _ => .pure _

theorem nest_unplaces (outer : Option Wire) (inner : Wire) :
    Unplaces (nest outer inner) (nest outer inner) := by
  cases outer with
  | none => exact .pure inner
  | some wire => exact emit_unplaces _ _

theorem assign_unplaces (condition : Option Wire) (name : String) (wire : Wire) :
    Unplaces (assign condition name wire) (assign condition name wire) := by
  intro s
  have symbols : s.unplaced.symbols = s.symbols := rfl
  rw [assign_run, assign_run, symbols]
  cases condition with
  | none => exact bind_unplaces name wire s
  | some test =>
      cases s.symbols.lookup name with
      | none => exact bind_unplaces name wire s
      | some prior => exact ((emit_unplaces _ _).bind fun _ => bind_unplaces name _) s

theorem trigger_unplaces (condition : Option Wire) :
    Unplaces (trigger condition) (trigger condition) := by
  cases condition with
  | none => exact constant_unplaces 1.0
  | some wire => exact .pure wire

theorem Sink.sources_unplaces (sink : Sink) (condition : Option Wire) (args : List Wire) :
    Unplaces (sink.sources condition args) (sink.sources condition args) := by
  cases sink with
  | beep => exact (trigger_unplaces condition).bind fun _ => .pure _
  | color => exact .pure _
  | screen =>
      rw [Sink.sources]
      split
      · exact (trigger_unplaces condition).bind fun _ => .pure _
      · exact .pure _

theorem call_unplaces (condition : Option Wire) (callee : Token) (args : List Wire) :
    Unplaces (call condition callee args) (call condition callee.unplaced args) := by
  rw [call, call, callee.unplaced_text]
  cases Sink.ofName? callee.text with
  | none => exact warn_unplaces (.unknownSink callee)
  | some sink =>
      refine (sink.sources_unplaces condition args).bind fun _ =>
        (emit_unplaces _ _).bind fun _ => ?_
      split
      · exact warn_unplaces (.extraArguments _ _)
      · exact .pure ()

mutual

theorem Stmt.emit_unplaces (condition : Option Wire) :
    ∀ stmt : Stmt, Unplaces (stmt.emit condition) (stmt.unplaced.emit condition)
  | .declare name value => by
      rw [Stmt.unplaced, Stmt.emit, Stmt.emit]
      exact value.emit_unplaces.bind fun _ => bind_unplaces name _
  | .assign name value => by
      rw [Stmt.unplaced, Stmt.emit, Stmt.emit]
      exact value.emit_unplaces.bind fun _ => assign_unplaces condition name _
  | .call callee args => by
      rw [Stmt.unplaced, Stmt.emit, Stmt.emit]
      exact (emitAll_unplaces args).bind fun _ => call_unplaces condition callee _
  | .when inner body => by
      rw [Stmt.unplaced, Stmt.emit, Stmt.emit]
      exact inner.emit_unplaces.bind fun _ => (nest_unplaces condition _).bind fun effective =>
        emitBody_unplaces (some effective) body

theorem emitBody_unplaces (condition : Option Wire) :
    ∀ body : List Stmt, Unplaces (emitBody condition body) (emitBody condition (unplacedBody body))
  | [] => by
      rw [unplacedBody, emitBody]
      exact .pure ()
  | stmt :: stmts => by
      rw [unplacedBody, emitBody, emitBody]
      exact (stmt.emit_unplaces condition).bind fun _ => emitBody_unplaces condition stmts

end

theorem emitBlocks_unplaces (blocks : List Block) :
    Unplaces (emitBlocks blocks) (emitBlocks (blocks.map Block.unplaced)) := by
  induction blocks with
  | nil => exact .pure none
  | cons block outer ih =>
      exact ih.bind fun condition => (emitBody_unplaces condition block.before).bind fun _ =>
        block.condition.emit_unplaces.bind fun _ => (nest_unplaces condition _).bind fun _ => .pure _

theorem Phase.emit_unplaces (phase : Phase) (condition : Option Wire) :
    Unplaces (phase.emit condition) (phase.unplaced.emit condition) := by
  cases phase with
  | opening tested =>
      exact tested.emit_unplaces.bind fun _ => (nest_unplaces condition _).bind fun _ => .pure ()
  | expression goal formula =>
      have operands := formula.operands_unplaced
      have all (done : List Expr) : done.map Expr.unplaced ++ formula.unplaced.operands =
          (done ++ formula.operands).map Expr.unplaced := by
        rw [operands, List.map_append]
      cases goal with
      | argument callee args =>
          simp only [Phase.emit, Phase.unplaced, Goal.unplaced, all]
          exact (emitAll_unplaces _).bind fun _ => .pure ()
      | _ =>
          simp only [Phase.emit, Phase.unplaced, Goal.unplaced, List.nil_append, operands]
          exact (emitAll_unplaces _).bind fun _ => .pure ()
  | _ => exact .pure ()

theorem Reading.emit_unplaces (r : Reading) : Unplaces r.emit r.unplaced.emit :=
  (emitBlocks_unplaces r.blocks).bind fun condition =>
    (emitBody_unplaces condition r.body).bind fun _ => r.phase.emit_unplaces condition

end Programs

section Compilations

def Compilation.unplaced (compilation : Compilation) : Compilation :=
  { compilation with
    warnings := compilation.warnings.map Warning.unplaced
    fault := compilation.fault.map Fault.unplaced }

theorem compileTokens_unplaced (ts : List Token) :
    compileTokens (ts.map Token.unplaced) = (compileTokens ts).unplaced := by
  have emitted := (read ts).1.emit_unplaces {}
  change (read ts).1.unplaced.emit.run {} = _ at emitted
  simp only [compileTokens, read_unplaced, emitted]
  rfl

/-- What is compiled depends on the lexemes alone, but for the places that it names. -/
theorem compile_unplaced_congr {source other : String} (same : lexemes source = lexemes other) :
    (compile source).unplaced = (compile other).unplaced := by
  have bare (text : String) : (tokens text).map Token.unplaced =
      (lexemes text).map fun lexeme => { text := lexeme.1, kind := lexeme.2, place := .first } := by
    rw [lexemes, List.map_map]
    rfl
  rw [compile, compile, ← compileTokens_unplaced, ← compileTokens_unplaced, bare, bare, same]

end Compilations

end SignalGraph.Script
