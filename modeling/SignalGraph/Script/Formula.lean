import SignalGraph.Script.Tree
import SignalGraph.Script.Fault
import SignalGraph.Decimal.Numeral

/-!
An expression that is being read. Its open parentheses stand on a stack, each with the operand and
operator to its left, so that one token at a time moves the reading on. All operands to the left of
the next token are complete expressions at every moment.
-/

namespace SignalGraph.Script

/-- The left operand and the operator of a chain whose next operand is due. -/
abbrev Left := Option (Expr × Operator)

/-- A complete operand joined to what stands to its left. -/
def Left.join (left : Left) (right : Expr) : Expr :=
  match left with
  | none => right
  | some (value, op) => .binary op value right

/-- An open parenthesis; `absolute` tells those of an absolute value from those of a group. -/
structure Paren where
  left : Left
  absolute : Bool

/-- The expression that a closed parenthesis stands for. -/
def Paren.close (paren : Paren) (inner : Expr) : Expr :=
  paren.left.join (if paren.absolute then .absolute inner else inner)

/-- What is at hand inside the innermost open parenthesis. -/
inductive Hand where
  /-- An operand is due. -/
  | wanting (left : Left)
  /-- The word `abs` has been read; a parenthesis would make it an absolute value. -/
  | word (left : Left) (token : Token)
  /-- A complete chain. -/
  | holding (value : Expr)

structure Formula where
  parens : List Paren
  hand : Hand

/-- Nothing read yet. -/
def Formula.empty : Formula := { parens := [], hand := .wanting none }

/-- What a token does to an expression: it belongs to it, it follows the complete expression, or it
fits neither way. -/
inductive Formula.Step where
  | shifted (formula : Formula)
  | finished (value : Expr)
  | refused (cause : Cause)

/-- A token where an operand is due. -/
def Formula.operand (absBound : Bool) (parens : List Paren) (left : Left) (t : Token) :
    Formula.Step :=
  if t.kind = .number then
    match Decimal.readMagnitude? false t.text.toList with
    | some value => .shifted { parens, hand := .holding (left.join (.number value)) }
    | none => .refused (.malformedNumber t.text)
  else if t.text = "(" then
    .shifted { parens := { left, absolute := false } :: parens, hand := .wanting none }
  else if !t.isName then .refused (.unexpected t.text)
  else if t.text = "abs" && !absBound then .shifted { parens, hand := .word left t }
  else .shifted { parens, hand := .holding (left.join (.name t)) }

/-- A token after a complete chain. -/
def Formula.follow (parens : List Paren) (value : Expr) (t : Token) : Formula.Step :=
  match Operator.ofText? t.text with
  | some op => .shifted { parens, hand := .wanting (some (value, op)) }
  | none =>
      match parens with
      | [] => .finished value
      | paren :: outer =>
          if t.text = ")" then .shifted { parens := outer, hand := .holding (paren.close value) }
          else .refused (.expected ")" (some t.text))

/-- Reads one token. `absBound` says whether `abs` is bound, which makes it a name like others. -/
def Formula.step (absBound : Bool) (formula : Formula) (t : Token) : Formula.Step :=
  match formula.hand with
  | .wanting left => Formula.operand absBound formula.parens left t
  | .word left token =>
      if t.text = "(" then
        .shifted { parens := { left, absolute := true } :: formula.parens, hand := .wanting none }
      else Formula.follow formula.parens (left.join (.name token)) t
  | .holding value => Formula.follow formula.parens value t

/-- The complete chain at hand, if no operand is due. -/
def Hand.value? : Hand → Option Expr
  | .wanting _ => none
  | .word left token => some (left.join (.name token))
  | .holding value => some value

/-- The whole expression, if it may end here. -/
def Formula.value? (formula : Formula) : Option Expr :=
  if formula.parens.isEmpty then formula.hand.value? else none

/-- Why a text may not end inside an expression. -/
def Formula.endCause (formula : Formula) : Cause :=
  match formula.hand with
  | .wanting _ => .endOfScript
  | _ => .expected ")" none

/-- The complete expressions that have been read, the leftmost first. -/
def Formula.operands (formula : Formula) : List Expr :=
  let lefts := formula.parens.reverse.filterMap fun paren => paren.left.map Prod.fst
  match formula.hand with
  | .wanting left => lefts ++ (left.map Prod.fst).toList
  | .word left token => lefts ++ [left.join (.name token)]
  | .holding value => lefts ++ [value]

end SignalGraph.Script
