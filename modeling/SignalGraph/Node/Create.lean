import SignalGraph.Node.Basic
import SignalGraph.Value.Number

/-!
Nodes made from named parameters, and the parameters that a node reports. A kind takes at most one
parameter, which may be left out.
-/

namespace SignalGraph

/-- The name of the parameter that a kind takes. -/
def Kind.param? : Kind → Option String
  | .constant => some "value"
  | .math => some "op"
  | .logic => some "op"
  | .timer => some "elapsed"
  | .counter => some "value"
  | .button => some "toggle"
  | .key => some "key"
  | .beep => some "sound"
  | .script => some "script"
  | _ => none

inductive CreateFault where
  | unknownKind (name : String)
  | unexpectedParam (kind : Kind) (param : String)
  | ownerParam (kind : Kind)
  | kindParam
  | operation (value : Value) (family : String)
  | number (fault : NumberFault)

/-- The name of a kind's maker; kinds without settings or pixels of their own share one. -/
def Kind.maker : Kind → String
  | .random => "BaseNode.__init__()"
  | .cursor => "BaseNode.__init__()"
  | kind => kind.name ++ ".__init__()"

def CreateFault.message : CreateFault → String
  | .unknownKind name => Text.quoted s!"unknown node kind '{name}'"
  | .unexpectedParam kind param => kind.maker ++ s!" got an unexpected keyword argument '{param}'"
  | .ownerParam kind => kind.maker ++ " got multiple values for argument 'self'"
  | .kindParam => "create_node() got multiple values for argument 'kind'"
  | .operation value family => s!"{value.inspect} is not a valid {family}"
  | .number fault => fault.message

/-- The kind that a value names. -/
def Kind.ofValue (v : Value) : Except CreateFault Kind :=
  match v with
  | .text name => (Kind.ofName? name).elim (.error (.unknownKind name)) .ok
  | v => .error (.unknownKind v.display)

def MathOp.ofValue (v : Value) : Except CreateFault MathOp :=
  match v with
  | .text name => (MathOp.ofName? name).elim (.error (.operation v "MathOp")) .ok
  | v => .error (.operation v "MathOp")

def LogicOp.ofValue (v : Value) : Except CreateFault LogicOp :=
  match v with
  | .text name => (LogicOp.ofName? name).elim (.error (.operation v "LogicOp")) .ok
  | v => .error (.operation v "LogicOp")

/-- Refuses the first parameter that the kind does not take. -/
def Kind.checkParams (kind : Kind) (params : Fields) : Except CreateFault Unit :=
  match params with
  | [] => .ok ()
  | (name, _) :: rest =>
      if name = "self" then .error (.ownerParam kind)
      else if kind.param? = some name then kind.checkParams rest
      else .error (.unexpectedParam kind name)

/-- A body of a kind as it starts without any parameter. -/
def Body.initial : Kind → Body
  | .constant => .constant 0.0
  | .math => .math .add
  | .logic => .logic .and
  | .timer => .timer 0.0
  | .counter => .counter 0.0 false false
  | .random => .random
  | .button => .button false false false
  | .key => .key (.text "Space")
  | .cursor => .cursor
  | .beep => .beep { sound := .text "Beep" }
  | .color => .color 0.0 0.0 0.0
  | .screen => .screen .blank
  | .script => .script (.text "")

/-- The number that a parameter gives, zero if it is left out. -/
def numberParam (param : Option Value) : Except CreateFault Float :=
  match param with
  | none => .ok 0.0
  | some v => v.toFloat.mapError .number

/-- A body of a kind as it starts, with the value of its parameter if that is given. -/
def Body.ofParam (kind : Kind) (param : Option Value) : Except CreateFault Body :=
  match kind with
  | .constant => return .constant (← numberParam param)
  | .math => return .math (← (param.map MathOp.ofValue).getD (.ok .add))
  | .logic => return .logic (← (param.map LogicOp.ofValue).getD (.ok .and))
  | .timer => return .timer (← numberParam param)
  | .counter => return .counter (← numberParam param) false false
  | .button => .ok (.button ((param.map Value.truth).getD false) false false)
  | .key => .ok (.key (param.getD (.text "Space")))
  | .beep => .ok (.beep { sound := param.getD (.text "Beep") })
  | .script => .ok (.script (param.getD (.text "")))
  | kind => .ok (.initial kind)

theorem Body.ofParam_none (kind : Kind) : Body.ofParam kind none = .ok (.initial kind) := by
  cases kind <;> rfl

def Body.create (kind : Kind) (params : Fields) : Except CreateFault Body := do
  kind.checkParams params
  Body.ofParam kind (params.lookup ((kind.param?).getD ""))

/-- A body of the kind that a value names. The parameters may not give the kind once more. -/
def Body.createNamed (kind : Value) (params : Fields) : Except CreateFault Body := do
  if (params.lookup "kind").isSome then throw .kindParam
  Body.create (← Kind.ofValue kind) params

/-- The parameters that would make the node anew. A timer does not report its elapsed time. -/
def Body.params : Body → Fields
  | .constant value => [("value", .float value)]
  | .math op => [("op", .text op.name)]
  | .logic op => [("op", .text op.name)]
  | .counter value _ _ => [("value", .float value)]
  | .button toggle _ _ => [("toggle", .bool toggle)]
  | .key value => [("key", value)]
  | .beep b => [("sound", b.sound)]
  | .script value => [("script", value)]
  | _ => []

end SignalGraph
