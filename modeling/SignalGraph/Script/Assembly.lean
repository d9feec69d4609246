import SignalGraph.Node.Basic
import SignalGraph.Script.Reading

/-!
Gates of a script. An assembly takes the statements of a script in order and turns each expression
into gates: a gate is the body of a node, its spot in the layout and, for each of its inlets, the
earlier gate whose first outlet it reads. Conditions become signals. An assignment under a condition
becomes a gate that selects the new or the earlier value, and a sink under a condition is triggered
by it.
-/

namespace SignalGraph.Script

/-- A gate of an assembly, by its position. -/
abbrev Wire := Nat

/-- A place in the layout of a compiled script. -/
structure Spot where
  x : Int
  y : Int
deriving Repr, DecidableEq

/-- Where the first gate is placed. -/
def Spot.origin : Spot := { x := 100, y := 100 }

def Spot.rowStep : Int := 80

def Spot.columnStep : Int := 200

/-- No gate is placed below. -/
def Spot.lowest : Int := 400

/-- The spot after another one: a row further down or, where that is too low, on top of the next
column. -/
def Spot.next (spot : Spot) : Spot :=
  let y := spot.y + Spot.rowStep
  if Spot.lowest < y then { x := spot.x + Spot.columnStep, y := Spot.origin.y }
  else { spot with y }

structure Gate where
  body : Body
  sources : List (Option Wire)
  spot : Spot

inductive Warning where
  | unbound (token : Token)
  | unknownSink (token : Token)
  | extraArguments (sink : String) (count : Nat)
deriving Repr, DecidableEq

def Place.note (place : Place) : String := s!" (line {place.line}, column {place.column})"

def Warning.message : Warning → String
  | .unbound token => s!"'{token.text}' is not bound, reads as 0" ++ token.place.note
  | .unknownSink token => s!"unknown sink '{token.text}', call ignored" ++ token.place.note
  | .extraArguments sink count => s!"{sink}: {count} extra argument(s) ignored"

/-- The gates so far, the gate that each name is bound to, the warnings, and the spot of the next
gate. -/
structure Assembly where
  gates : Array Gate := #[]
  symbols : List (String × Wire) := []
  warnings : List Warning := []
  cursor : Spot := .origin

abbrev Assemble := StateM Assembly

/-- Appends a gate at the cursor, moves the cursor on, and returns the wire of the gate. -/
def emit (body : Body) (sources : List (Option Wire)) : Assemble Wire := do
  let state ← get
  set { state with
    gates := state.gates.push { body, sources, spot := state.cursor }
    cursor := state.cursor.next }
  return state.gates.size

def warn (warning : Warning) : Assemble Unit :=
  modify fun state => { state with warnings := state.warnings ++ [warning] }

def bind (name : String) (wire : Wire) : Assemble Unit :=
  modify fun state => { state with symbols := putEntry name wire state.symbols }

def constant (value : Float) : Assemble Wire := emit (.constant value) []

def Operator.body : Operator → Body
  | .add => .math .add
  | .subtract => .math .subtract
  | .multiply => .math .multiply
  | .divide => .math .divide
  | .greater => .logic .greaterThan
  | .less => .logic .lessThan

/-- A name that is not bound reads as a constant of zero. -/
def readName (token : Token) : Assemble Wire := do
  match (← get).symbols.lookup token.text with
  | some wire => return wire
  | none =>
      warn (.unbound token)
      constant 0.0

/-- The gates of an expression, the operands before their operator. -/
def Expr.emit : Expr → Assemble Wire
  | .number value => constant value
  | .name token => readName token
  | .absolute inner => do
      let wire ← inner.emit
      Script.emit (.math .abs) [some wire]
  | .binary op left right => do
      let first ← left.emit
      let second ← right.emit
      Script.emit op.body [some first, some second]

/-- The wire of each expression, in order. -/
def emitAll : List Expr → Assemble (List Wire)
  | [] => return []
  | e :: es => do
      let wire ← e.emit
      return wire :: (← emitAll es)

/-- A condition within another one: both must hold. -/
def nest (outer : Option Wire) (inner : Wire) : Assemble Wire :=
  match outer with
  | none => return inner
  | some wire => emit (.logic .and) [some wire, some inner]

/-- Binds a name anew. Under a condition the earlier value, if there is one, stays selectable. -/
def assign (condition : Option Wire) (name : String) (value : Wire) : Assemble Unit := do
  match condition, (← get).symbols.lookup name with
  | some wire, some prior =>
      let merged ← emit (.math .select) [some wire, some value, some prior]
      bind name merged
  | _, _ => bind name value

inductive Sink where
  | beep
  | color
  | screen
deriving Repr, DecidableEq

def Sink.ofName? (name : String) : Option Sink :=
  match name with
  | "beep" => some .beep
  | "ColorNode" => some .color
  | "screen" => some .screen
  | _ => none

/-- A sink as it starts. -/
def Sink.body : Sink → Body
  | .beep => .beep { sound := .text "Beep" }
  | .color => .color 0.0 0.0 0.0
  | .screen => .screen .blank

/-- How many arguments a sink takes. -/
def Sink.limit : Sink → Nat
  | .beep => 2
  | .color => 3
  | .screen => 7

/-- What triggers a sink: the condition, or a constant of one. -/
def trigger (condition : Option Wire) : Assemble Wire :=
  match condition with
  | some wire => return wire
  | none => constant 1.0

/-- Argument wires by slot. -/
def argument (args : List Wire) (slots : Nat) : List (Option Wire) :=
  (List.range slots).map fun slot => args[slot]?

/-- A beep's trigger comes before its arguments. A screen's sixth inlet is its trigger unless an
argument is given for it. A color has none. -/
def Sink.sources (sink : Sink) (condition : Option Wire) (args : List Wire) :
    Assemble (List (Option Wire)) :=
  match sink with
  | .beep => return some (← trigger condition) :: argument args 2
  | .color => return argument args 3
  | .screen =>
      if args.length < 6 then
        return (argument args 7).set 5 (some (← trigger condition))
      else return argument args 7

def callSink (sink : Sink) (condition : Option Wire) (args : List Wire) : Assemble Unit := do
  let sources ← sink.sources condition args
  let _ ← emit sink.body sources
  if sink.limit < args.length then
    warn (.extraArguments sink.body.name (args.length - sink.limit))

/-- A call of a name that is no sink has arguments, but no effect. -/
def call (condition : Option Wire) (callee : Token) (args : List Wire) : Assemble Unit :=
  match Sink.ofName? callee.text with
  | some sink => callSink sink condition args
  | none => warn (.unknownSink callee)

mutual

/-- The gates of a statement under a condition. -/
def Stmt.emit (condition : Option Wire) : Stmt → Assemble Unit
  | .declare name value => do
      let wire ← value.emit
      bind name wire
  | .assign name value => do
      let wire ← value.emit
      assign condition name wire
  | .call callee args => do
      let wires ← emitAll args
      call condition callee wires
  | .when inner body => do
      let wire ← inner.emit
      let effective ← nest condition wire
      emitBody (some effective) body

def emitBody (condition : Option Wire) : List Stmt → Assemble Unit
  | [] => return
  | stmt :: stmts => do
      stmt.emit condition
      emitBody condition stmts

end

/-- The gates of open blocks, the outermost first, and the condition in force inside them. -/
def emitBlocks : List Block → Assemble (Option Wire)
  | [] => return none
  | block :: outer => do
      let condition ← emitBlocks outer
      emitBody condition block.before
      let inner ← block.condition.emit
      some <$> nest condition inner

/-- The gates of what is complete in a statement that is not. -/
def Phase.emit (condition : Option Wire) : Phase → Assemble Unit
  | .opening inner => do
      let wire ← inner.emit
      let _ ← nest condition wire
  | .expression goal formula => do
      let done :=
        match goal with
        | .argument _ args => args
        | _ => []
      let _ ← emitAll (done ++ formula.operands)
  | _ => return

/-- The gates of all that has been read of a script. -/
def Reading.emit (r : Reading) : Assemble Unit := do
  let condition ← emitBlocks r.blocks
  emitBody condition r.body
  r.phase.emit condition

end SignalGraph.Script
