import SignalGraph.Script.Compile

/-!
Single expressions compiled. An excerpt is the longest expression at the start of a token list; what
follows it is left alone.
-/

namespace SignalGraph.Script

/-- How far an expression at the start of a token list was read. -/
structure Excerpt where
  formula : Formula
  /-- The whole expression, if it was read to its end. -/
  value : Option Expr
  /-- How many tokens were read. -/
  count : Nat
  fault : Option Fault

/-- A refused token counts as read where an operand was due, and as left where a parenthesis was. -/
def Cause.consumes : Cause → Bool
  | .unexpected _ => true
  | .malformedNumber _ => true
  | _ => false

/-- Reads the longest expression at the start of a token list. `count` tokens have been read before,
`last` is the place of the last of them. -/
def Formula.run (absBound : Bool) (count : Nat) (last : Option Place) (formula : Formula) :
    List Token → Excerpt
  | [] =>
      match formula.value? with
      | some value => { formula, value, count, fault := none }
      | none =>
          { formula, value := none, count, fault := some { cause := formula.endCause, place := last } }
  | t :: ts =>
      match formula.step absBound t with
      | .finished value => { formula, value, count, fault := none }
      | .refused cause =>
          { formula, value := none, count := if cause.consumes then count + 1 else count
            fault := some { cause, place := some t.place } }
      | .shifted next =>
          if nestingLimit < next.parens.length then
            { formula, value := none, count, fault := some { cause := .nesting, place := none } }
          else next.run absBound (count + 1) (some t.place) ts

/-- One expression compiled on its own: its wire, and how many tokens were read. -/
structure ExpressionCompilation extends Compilation where
  value : Option Wire
  count : Nat

/-- Binds each name to a constant gate of its own. -/
def bindConstants : List (String × Float) → Assemble Unit
  | [] => return
  | (name, value) :: rest => do
      let wire ← constant value
      bind name wire
      bindConstants rest

/-- Compiles the expression at the start of a text, with names bound to constants. -/
def compileExpression (constants : List (String × Float)) (source : String) :
    ExpressionCompilation :=
  let excerpt := Formula.run ((constants.lookup "abs").isSome) 0 none .empty (tokens source)
  let assemble : Assemble (Option Wire) := do
    bindConstants constants
    match excerpt.value with
    | some value => some <$> value.emit
    | none =>
        let _ ← emitAll excerpt.formula.operands
        return none
  let (value, assembly) := assemble.run {}
  { assembly with value, count := excerpt.count, fault := excerpt.fault }

end SignalGraph.Script
