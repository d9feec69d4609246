import SignalGraph.Script.Formula

/-!
The grammar of scripts, stated over tokens and apart from the machine that reads them. Each relation
says which tokens a tree is written with and which tokens are left over, so that what follows a tree
can decide where it ends. Everything optional is taken as far as it goes.

A semicolon needs no rule: it starts no statement, and what starts no statement has no effect.
-/

namespace SignalGraph.Script

/-- Whether the next token has this text. -/
def startsWith (text : String) (ts : List Token) : Bool := ts.head?.any fun t => t.text = text

theorem startsWith_cons (text : String) (t : Token) (ts : List Token) :
    startsWith text (t :: ts) = decide (t.text = text) := rfl

theorem ne_of_startsWith {text : String} {ts : List Token} (h : startsWith text ts = false) :
    ∀ t ∈ ts.head?, t.text ≠ text := by
  intro t mem
  rw [startsWith, Option.mem_def.mp mem] at h
  exact of_decide_eq_false h

/-- What a token may start where a statement is due. -/
inductive Start where
  | brace
  | declarator
  | condition
  | creation
  | name
  | other
deriving Repr, DecidableEq

def Token.start (t : Token) : Start :=
  if t.text = "\x7d" then .brace
  else if t.text = "var" || t.text = "int" || t.text = "float" then .declarator
  else if t.text = "if" then .condition
  else if t.text = "new" then .creation
  else if t.isName then .name
  else .other

theorem Token.start_eq_brace {t : Token} : t.start = .brace ↔ t.text = "\x7d" := by
  unfold Token.start
  repeat' split
  all_goals simp_all

theorem Token.isName_of_other {t : Token} (h : t.start = .other) : t.isName = false := by
  unfold Token.start at h
  repeat' split at h
  all_goals simp_all

theorem Token.isName_of_name {t : Token} (h : t.start = .name) : t.isName := by
  unfold Token.start at h
  repeat' split at h
  all_goals simp_all

mutual

/-- A statement binds a name when it assigns or declares it, under a condition or not. -/
def Stmt.binds (name : String) : Stmt → Bool
  | .declare bound _ => bound = name
  | .assign bound _ => bound = name
  | .call .. => false
  | .when _ body => bodyBinds name body

def bodyBinds (name : String) : List Stmt → Bool
  | [] => false
  | stmt :: stmts => stmt.binds name || bodyBinds name stmts

end

mutual

/-- An operand. The word `abs` before a parenthesis is the absolute value unless a name `abs` is
bound. -/
inductive TermAt (absBound : Bool) : List Token → Expr → List Token → Prop where
  | number {t : Token} {ts : List Token} {value : Float} (kind : t.kind = .number)
      (numeral : Decimal.readMagnitude? false t.text.toList = some value) :
      TermAt absBound (t :: ts) (.number value) ts
  | group {opening closing : Token} {ts rest : List Token} {inner : Expr}
      (kind : opening.kind ≠ .number) (opens : opening.text = "(")
      (inside : ChainAt absBound ts inner (closing :: rest)) (closes : closing.text = ")") :
      TermAt absBound (opening :: ts) inner rest
  | absolute {word opening closing : Token} {ts rest : List Token} {inner : Expr}
      (name : word.isName) (text : word.text = "abs") (unbound : absBound = false)
      (opens : opening.text = "(") (inside : ChainAt absBound ts inner (closing :: rest))
      (closes : closing.text = ")") :
      TermAt absBound (word :: opening :: ts) (.absolute inner) rest
  | name {t : Token} {ts : List Token} (name : t.isName) (text : t.text ≠ "(")
      (plain : t.text = "abs" → absBound = false → startsWith "(" ts = false) :
      TermAt absBound (t :: ts) (.name t) ts

/-- A whole expression: operands joined from left to right by operators of one rank. -/
inductive ChainAt (absBound : Bool) : List Token → Expr → List Token → Prop where
  | mk {ts mid rest : List Token} {first value : Expr} (head : TermAt absBound ts first mid)
      (links : LinksAt absBound first mid value rest) : ChainAt absBound ts value rest

/-- The operators and operands after the part of a chain that has the value `left`. -/
inductive LinksAt (absBound : Bool) : Expr → List Token → Expr → List Token → Prop where
  | done {left : Expr} {ts : List Token}
      (ended : ts.head?.all fun t => (Operator.ofText? t.text).isNone) :
      LinksAt absBound left ts left ts
  | link {left right value : Expr} {t : Token} {op : Operator} {ts mid rest : List Token}
      (operator : Operator.ofText? t.text = some op) (operand : TermAt absBound ts right mid)
      (links : LinksAt absBound (.binary op left right) mid value rest) :
      LinksAt absBound left (t :: ts) value rest

end

/-- What follows an argument, up to the closing parenthesis. -/
inductive ArgsAfter (absBound : Bool) : List Token → List Expr → List Token → Prop where
  | close {t : Token} {ts : List Token} (closes : t.text = ")") : ArgsAfter absBound (t :: ts) [] ts
  | more {t : Token} {ts mid rest : List Token} {arg : Expr} {args : List Expr}
      (comma : t.text = ",") (first : ChainAt absBound ts arg mid)
      (others : ArgsAfter absBound mid args rest) : ArgsAfter absBound (t :: ts) (arg :: args) rest

/-- The arguments of a call behind its opening parenthesis. -/
inductive ArgsAt (absBound : Bool) : List Token → List Expr → List Token → Prop where
  | none {t : Token} {ts : List Token} (closes : t.text = ")") : ArgsAt absBound (t :: ts) [] ts
  | some {ts mid rest : List Token} {arg : Expr} {args : List Expr}
      (given : startsWith ")" ts = false) (first : ChainAt absBound ts arg mid)
      (others : ArgsAfter absBound mid args rest) : ArgsAt absBound ts (arg :: args) rest

/-- Tokens without effect: a declaration without an initial value, a name alone, or a token that
starts no statement. -/
inductive IdleAt : List Token → List Token → Prop where
  | declaration {t name : Token} {ts : List Token} (start : t.start = .declarator)
      (isName : name.isName) (bare : startsWith "=" ts = false) : IdleAt (t :: name :: ts) ts
  | name {t : Token} {ts : List Token} (start : t.start = .name)
      (noCall : startsWith "(" ts = false) (noValue : startsWith "=" ts = false) :
      IdleAt (t :: ts) ts
  | other {t : Token} {ts : List Token} (start : t.start = .other) : IdleAt (t :: ts) ts

mutual

inductive StmtAt : Bool → List Token → Stmt → List Token → Prop where
  | declare {absBound : Bool} {t name equals : Token} {ts rest : List Token} {value : Expr}
      (start : t.start = .declarator) (isName : name.isName) (sign : equals.text = "=")
      (init : ChainAt absBound ts value rest) :
      StmtAt absBound (t :: name :: equals :: ts) (.declare name.text value) rest
  | assign {absBound : Bool} {t equals : Token} {ts rest : List Token} {value : Expr}
      (start : t.start = .name) (sign : equals.text = "=")
      (given : ChainAt absBound ts value rest) :
      StmtAt absBound (t :: equals :: ts) (.assign t.text value) rest
  | call {absBound : Bool} {t opening : Token} {ts rest : List Token} {args : List Expr}
      (start : t.start = .name) (opens : opening.text = "(")
      (inside : ArgsAt absBound ts args rest) :
      StmtAt absBound (t :: opening :: ts) (.call t args) rest
  | create {absBound : Bool} {t name opening : Token} {ts rest : List Token} {args : List Expr}
      (start : t.start = .creation) (isName : name.isName) (opens : opening.text = "(")
      (inside : ArgsAt absBound ts args rest) :
      StmtAt absBound (t :: name :: opening :: ts) (.call name args) rest
  | when {absBound : Bool} {t opening closing left right : Token} {ts mid rest : List Token}
      {condition : Expr} {body : List Stmt} (start : t.start = .condition)
      (opens : opening.text = "(") (tested : ChainAt absBound ts condition (closing :: left :: mid))
      (closes : closing.text = ")") (leftBrace : left.text = "\x7b")
      (inside : BodyAt absBound mid body (right :: rest)) (rightBrace : right.start = .brace) :
      StmtAt absBound (t :: opening :: ts) (.when condition body) rest

/-- Statements up to a closing brace or the end. A statement that binds `abs` makes it a plain name
for all that follows. -/
inductive BodyAt : Bool → List Token → List Stmt → List Token → Prop where
  | stop {absBound : Bool} {ts : List Token} (ended : ts.head?.all fun t => t.start = .brace) :
      BodyAt absBound ts [] ts
  | idle {absBound : Bool} {ts mid rest : List Token} {body : List Stmt} (skipped : IdleAt ts mid)
      (others : BodyAt absBound mid body rest) : BodyAt absBound ts body rest
  | cons {absBound : Bool} {ts mid rest : List Token} {stmt : Stmt} {body : List Stmt}
      (first : StmtAt absBound ts stmt mid)
      (others : BodyAt (absBound || stmt.binds "abs") mid body rest) :
      BodyAt absBound ts (stmt :: body) rest

end

/-- A whole script, written with these tokens. -/
def Written (ts : List Token) (script : List Stmt) : Prop := BodyAt false ts script []

end SignalGraph.Script
