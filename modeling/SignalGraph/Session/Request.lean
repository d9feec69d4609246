import SignalGraph.Controls
import SignalGraph.Node.Create

/-!
Requests to a session. A message is an object whose type says what it asks for; its other fields are
loosely typed and are turned into what the request needs before the session sees any of it.
-/

namespace SignalGraph

inductive Request where
  | compile (source : String)
  | tick (dt : Float) (controls : Option Controls)
  | load (text : String)
  | save
  | spawn (kind : Value) (x y : Int) (params : Fields)
  | remove (id : Int)
  | connect (source outletSlot target inletSlot : Int)

inductive RequestFault where
  | unknownType (name : String)
  | missing (field : String)
  | number (fault : NumberFault)
  | controls (issues : List Form.Issue)
  | paramsOf (typeName : String)
  | repeatedParam (name : String)

def RequestFault.message : RequestFault → String
  | .unknownType name => s!"unknown message type '{name}'"
  | .missing field => Text.quoted field
  | .number fault => fault.message
  | .controls issues => Form.report "HostInput" issues
  | .paramsOf typeName =>
      "toycon.engine.session.GraphSession.spawn() argument after ** must be a mapping, not " ++
        typeName
  | .repeatedParam name => s!"GraphSession.spawn() got multiple values for argument '{name}'"

/-- The field of a message that must be there. -/
def needField (message : Fields) (name : String) : Except RequestFault Value :=
  (message.lookup name).elim (.error (.missing name)) .ok

def intField (v : Value) : Except RequestFault Int := v.toInt.mapError .number

/-- The text of a field, empty if it is left out. -/
def textField (message : Fields) (name : String) : String :=
  ((message.lookup name).map Value.display).getD ""

/-- An integer field, zero if it is left out. -/
def slotField (message : Fields) (name : String) : Except RequestFault Int :=
  intField ((message.lookup name).getD (.int 0))

/-- Parameters may not give again what the message itself gives. -/
def checkSpawnParams (params : Fields) : Except RequestFault Unit :=
  match params.find? fun (name, _) => name ∈ ["self", "kind", "x", "y"] with
  | some (name, _) => .error (.repeatedParam name)
  | none => .ok ()

def Request.spawnOf (message : Fields) : Except RequestFault Request := do
  let kind ← needField message "kind"
  let x ← slotField message "x"
  let y ← slotField message "y"
  match (message.lookup "params").getD (.object []) with
  | .object params => do
      checkSpawnParams params
      return .spawn kind x y params
  | v => throw (.paramsOf v.typeName)

/-- Null stands for no report of the controls, like a field that is left out. -/
def Request.tickOf (message : Fields) : Except RequestFault Request := do
  let controls ←
    match (message.lookup "host").getD .null with
    | .null => pure none
    | v => (Controls.check v).mapError RequestFault.controls |>.map some
  let dt ← ((message.lookup "dt").getD (.float 0.0)).toFloat.mapError RequestFault.number
  return .tick dt controls

def Request.connectOf (message : Fields) : Except RequestFault Request := do
  let source ← intField (← needField message "source")
  let outletSlot ← slotField message "source_slot"
  let target ← intField (← needField message "target")
  let inletSlot ← slotField message "target_slot"
  return .connect source outletSlot target inletSlot

/-- The request of a message. -/
def Request.ofMessage (message : Fields) : Except RequestFault Request :=
  match (message.lookup "type").getD .null with
  | .text "COMPILE" => .ok (.compile (textField message "source"))
  | .text "TICK" => Request.tickOf message
  | .text "LOAD" => .ok (.load (textField message "text"))
  | .text "SAVE" => .ok .save
  | .text "SPAWN" => Request.spawnOf message
  | .text "REMOVE" => do return .remove (← intField (← needField message "node_id"))
  | .text "CONNECT" => Request.connectOf message
  | v => .error (.unknownType v.display)

end SignalGraph
