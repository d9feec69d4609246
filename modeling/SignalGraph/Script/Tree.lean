import SignalGraph.Script.Token

/-!
The meaning-bearing parts of a script: expressions, and the statements that bind a name, call a
sink, or stand under a condition.
-/

namespace SignalGraph.Script

inductive Operator where
  | add
  | subtract
  | multiply
  | divide
  | greater
  | less
deriving Repr, DecidableEq

def Operator.ofText? (text : String) : Option Operator :=
  match text with
  | "+" => some .add
  | "-" => some .subtract
  | "*" => some .multiply
  | "/" => some .divide
  | ">" => some .greater
  | "<" => some .less
  | _ => none

/-- A chain of operators leans to the left and knows no precedence. -/
inductive Expr where
  | number (value : Float)
  | name (token : Token)
  | absolute (inner : Expr)
  | binary (op : Operator) (left right : Expr)

/-- A declaration binds a name whatever the condition; an assignment under a condition keeps the
earlier value where the condition does not hold. -/
inductive Stmt where
  | declare (name : String) (value : Expr)
  | assign (name : String) (value : Expr)
  | call (callee : Token) (args : List Expr)
  | when (condition : Expr) (body : List Stmt)

end SignalGraph.Script
