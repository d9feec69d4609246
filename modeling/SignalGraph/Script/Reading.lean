import SignalGraph.Script.Formula

/-!
A script that is being read. The state after some tokens holds all statements that are complete, the
blocks that are open, and where in the current statement the reading stands. A script that is
refused leaves the state before the token at fault.
-/

namespace SignalGraph.Script

/-- What an expression is read for. -/
inductive Goal where
  | declaration (name : String)
  | assignment (name : String)
  | condition
  | argument (callee : Token) (args : List Expr)

/-- Where in a statement the reading stands. -/
inductive Phase where
  /-- Between two statements. -/
  | ready
  /-- A declaration, its name due. -/
  | declaration
  /-- A declaration with its name; an initial value may follow. -/
  | declared (name : String)
  /-- A condition, its opening parenthesis due. -/
  | condition
  /-- A whole condition, the opening brace due. -/
  | opening (condition : Expr)
  /-- The word `new`, the name of a sink due. -/
  | creation
  /-- The name of a sink after `new`, the opening parenthesis due. -/
  | callee (name : Token)
  /-- A name, which a parenthesis makes a call and an equals sign an assignment. -/
  | word (name : Token)
  /-- Inside an expression. -/
  | expression (goal : Goal) (formula : Formula)

/-- An open block: the statements before it, its condition, and its opening brace. -/
structure Block where
  before : List Stmt
  condition : Expr
  brace : Token

/-- The state of a reading. Blocks stand the innermost first; `body` are the complete statements
of the innermost one. -/
structure Reading where
  blocks : List Block
  body : List Stmt
  phase : Phase
  absBound : Bool

def Reading.empty : Reading := { blocks := [], body := [], phase := .ready, absBound := false }

/-- How deep parentheses and blocks may be nested together. -/
def nestingLimit : Nat := 1000

def Phase.depth : Phase → Nat
  | .expression _ formula => formula.parens.length
  | _ => 0

def Reading.depth (r : Reading) : Nat := r.blocks.length + r.phase.depth

/-- A complete statement. One that binds `abs` makes it a name like others from here on. -/
def Reading.push (r : Reading) (stmt : Stmt) : Reading :=
  let bindsAbs :=
    match stmt with
    | .declare name _ => name = "abs"
    | .assign name _ => name = "abs"
    | _ => false
  { r with body := r.body ++ [stmt], phase := .ready, absBound := r.absBound || bindsAbs }

/-- Ends a declaration or an assignment whose expression is complete, and drops a statement that
has no effect. Other unfinished statements stay. -/
def Reading.settle (r : Reading) : Reading :=
  match r.phase with
  | .declared _ => { r with phase := .ready }
  | .word _ => { r with phase := .ready }
  | .expression (.declaration name) formula =>
      match formula.value? with
      | some value => r.push (.declare name value)
      | none => r
  | .expression (.assignment name) formula =>
      match formula.value? with
      | some value => r.push (.assign name value)
      | none => r
  | _ => r

def Reading.await (r : Reading) (phase : Phase) : Reading := { r with phase }

/-- Starts to read an expression. -/
def Reading.awaitExpression (r : Reading) (goal : Goal) : Reading :=
  r.await (.expression goal .empty)

/-- A token between two statements. One that starts no statement is passed over. -/
def Reading.start (r : Reading) (t : Token) : Except Cause Reading :=
  if t.text = "\x7d" then
    match r.blocks with
    | [] => .error .unmatchedBrace
    | block :: outer =>
        .ok { r with
          blocks := outer, body := block.before ++ [.when block.condition r.body], phase := .ready }
  else if t.text = "var" || t.text = "int" || t.text = "float" then .ok (r.await .declaration)
  else if t.text = "if" then .ok (r.await .condition)
  else if t.text = "new" then .ok (r.await .creation)
  else if t.isName then .ok (r.await (.word t))
  else .ok (r.await .ready)

/-- A token after a complete expression that is read for a goal. -/
def Reading.finish (r : Reading) (goal : Goal) (value : Expr) (t : Token) : Except Cause Reading :=
  match goal with
  | .declaration name => (r.push (.declare name value)).start t
  | .assignment name => (r.push (.assign name value)).start t
  | .condition =>
      if t.text = ")" then .ok (r.await (.opening value))
      else .error (.expected ")" (some t.text))
  | .argument callee args =>
      if t.text = ")" then .ok (r.push (.call callee (args ++ [value])))
      else if t.text = "," then .ok (r.awaitExpression (.argument callee (args ++ [value])))
      else .error (.argumentEnd t.text)

/-- A token inside an expression. -/
def Reading.advance (r : Reading) (goal : Goal) (formula : Formula) (t : Token) :
    Except Cause Reading :=
  match formula.step r.absBound t with
  | .shifted formula => .ok (r.await (.expression goal formula))
  | .finished value => r.finish goal value t
  | .refused cause => .error cause

/-- The callee of a call whose arguments may end before the first one. -/
def Phase.emptyCall? : Phase → Option Token
  | .expression (.argument name []) { parens := [], hand := .wanting none } => some name
  | _ => none

/-- A token wherever the reading stands, whatever the depth. -/
def Reading.shift (r : Reading) (t : Token) : Except Cause Reading :=
  match r.phase with
  | .ready => r.start t
  | .declaration =>
      if t.isName then .ok (r.await (.declared t.text)) else .error (.variableName t.text)
  | .declared name =>
      if t.text = "=" then .ok (r.awaitExpression (.declaration name)) else r.start t
  | .condition =>
      if t.text = "(" then .ok (r.awaitExpression .condition)
      else .error (.expected "(" (some t.text))
  | .opening condition =>
      if t.text = "\x7b" then
        .ok { r with
          blocks := { before := r.body, condition, brace := t } :: r.blocks
          body := []
          phase := .ready }
      else .error (.expected "\x7b" (some t.text))
  | .creation => if t.isName then .ok (r.await (.callee t)) else .error (.sinkName t.text)
  | .callee name =>
      if t.text = "(" then .ok (r.awaitExpression (.argument name []))
      else .error (.expected "(" (some t.text))
  | .word name =>
      if t.text = "(" then .ok (r.awaitExpression (.argument name []))
      else if t.text = "=" then .ok (r.awaitExpression (.assignment name.text))
      else r.start t
  | .expression goal formula =>
      match r.phase.emptyCall? with
      | some name =>
          if t.text = ")" then .ok (r.push (.call name [])) else r.advance goal formula t
      | none => r.advance goal formula t

/-- Reads one token. Nesting too deep is the fault of no single token. -/
def Reading.step (r : Reading) (t : Token) : Except Fault Reading :=
  match r.shift t with
  | .error cause => .error { cause, place := some t.place }
  | .ok next =>
      if nestingLimit < next.depth then .error { cause := .nesting, place := none } else .ok next

/-- Why a script may not end here. `last` is the place of its last token. -/
def Reading.endFault? (r : Reading) (last : Option Place) : Option Fault :=
  match r.phase with
  | .ready =>
      r.blocks.head?.map fun block =>
        { cause := .unclosedBlock, place := some block.brace.place }
  | .declared _ => none
  | .word _ => none
  | .declaration => some { cause := .endOfScript, place := last }
  | .creation => some { cause := .endOfScript, place := last }
  | .condition => some { cause := .expected "(" none, place := last }
  | .callee _ => some { cause := .expected "(" none, place := last }
  | .opening _ => some { cause := .expected "\x7b" none, place := last }
  | .expression goal formula =>
      match formula.value?, goal with
      | none, _ => some { cause := formula.endCause, place := last }
      | some _, .condition => some { cause := .expected ")" none, place := last }
      | some _, _ => some { cause := .endOfScript, place := last }

/-- Reads tokens as far as they can be read: the state reached, and the fault of the token that
follows it. -/
def Reading.run (r : Reading) : List Token → Reading × Option Fault
  | [] => (r.settle, none)
  | t :: ts =>
      match r.step t with
      | .ok next => next.run ts
      | .error fault => (r.settle, some fault)

/-- Reads a whole script: the state reached, and why the script is refused if it is. -/
def read (script : List Token) : Reading × Option Fault :=
  match Reading.empty.run script with
  | (r, some fault) => (r, some fault)
  | (r, none) => (r, r.endFault? (script.getLast?.map (·.place)))

end SignalGraph.Script
