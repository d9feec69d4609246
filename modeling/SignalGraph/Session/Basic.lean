import SignalGraph.Graph.Archive
import SignalGraph.Graph.Compile
import SignalGraph.Session.Request
import SignalGraph.Session.Status

/-!
Sessions. A session owns one circuit, answers requests about it one at a time, and holds the last
controls that it was told. Every request gets one reply; one that is refused leaves the session as it
was, but a tick that fails stays half done.
-/

namespace SignalGraph

structure Session where
  circuit : Circuit
  mode : CompileMode := .atomic
  controls : Controls := .idle
  lastCompile : Option CompileResult := none

def Session.ofSeed (seed : Nat) (mode : CompileMode) : Session :=
  { circuit := .ofSeed seed, mode }

inductive SessionFault where
  | request (fault : RequestFault)
  | create (fault : CreateFault)
  | graph (fault : GraphFault)
  | save (fault : SaveFault)
  | step (fault : StepFault)
  | notScript (id : Value) (kind : Kind)
  | notText (typeName : String)

def SessionFault.message : SessionFault → String
  | .request fault => fault.message
  | .create fault => fault.message
  | .graph fault => fault.message
  | .save fault => fault.message
  | .step fault => fault.message
  | .notScript id kind => s!"node {id.display} is a {kind.name}, not a script importer"
  | .notText typeName => s!"expected string or bytes-like object, got '{typeName}'"

inductive Reply where
  | compiled (result : CompileResult)
  | ticked (status : Status)
  | loaded (count : Nat)
  | saved (text : String)
  | spawned (id : Int)
  | removed
  | connected (added : Bool)
  | refused (fault : SessionFault)

/-- One tick. Controls that come with it stay in force for later ticks without any. -/
def Session.tick (s : Session) (dt : Float) (controls : Option Controls) :
    Session × Option StepFault :=
  let controls := controls.getD s.controls
  let (circuit, fault) := s.circuit.tick dt controls
  ({ s with circuit, controls }, fault)

def Session.compile (s : Session) (source : String) : Session × CompileResult :=
  let (circuit, result) := s.circuit.compile s.mode source
  ({ s with circuit, lastCompile := some result }, result)

/-- Compiles the script that a node holds over the whole graph. -/
def Session.compileNode (s : Session) (id : Value) : Session × Except SessionFault CompileResult :=
  match s.circuit.find id with
  | .error fault => (s, .error (.graph fault))
  | .ok ref =>
      match (s.circuit.node ref).body with
      | .script (.text source) =>
          let (s, result) := s.compile source
          (s, .ok result)
      | .script v =>
          let graph :=
            match s.mode with
            | .atomic => s.circuit.graph
            | .partialGates => s.circuit.graph.clear
          ({ s with circuit := { s.circuit with graph } }, .error (.notText v.typeName))
      | body => (s, .error (.notScript id body.kind))

def Session.load (s : Session) (text : String) : Session :=
  { s with circuit := s.circuit.load text }

def Session.save (s : Session) : Except SaveFault String := s.circuit.save

def Session.nodeCount (s : Session) : Nat := s.circuit.graph.nodes.length

/-- Makes a node and enters it. -/
def Session.spawn (s : Session) (kind : Value) (x y : Int) (params : Fields) :
    Except CreateFault (Session × Int) := do
  let body ← Body.createNamed kind params
  let (circuit, ref) := s.circuit.insert body x y
  return ({ s with circuit }, (circuit.node ref).idNumber)

def Session.remove (s : Session) (id : Int) : Except GraphFault Session := do
  let ref ← s.circuit.find (.int id)
  return { s with circuit := ← s.circuit.remove ref }

def Session.connect (s : Session) (source outletSlot target inletSlot : Int) :
    Except GraphFault (Session × Bool) := do
  let source ← s.circuit.find (.int source)
  let target ← s.circuit.find (.int target)
  let (circuit, added) ← s.circuit.connect source outletSlot target inletSlot
  return ({ s with circuit }, added)

/-- Carries out a request. -/
def Session.perform (s : Session) (request : Request) : Session × Reply :=
  match request with
  | .compile source =>
      let (s, result) := s.compile source
      (s, .compiled result)
  | .tick dt controls =>
      match s.tick dt controls with
      | (s, none) => (s, .ticked s.circuit.status)
      | (s, some fault) => (s, .refused (.step fault))
  | .load text =>
      let s := s.load text
      (s, .loaded s.nodeCount)
  | .save =>
      match s.save with
      | .ok text => (s, .saved text)
      | .error fault => (s, .refused (.save fault))
  | .spawn kind x y params =>
      match s.spawn kind x y params with
      | .ok (s, id) => (s, .spawned id)
      | .error fault => (s, .refused (.create fault))
  | .remove id =>
      match s.remove id with
      | .ok s => (s, .removed)
      | .error fault => (s, .refused (.graph fault))
  | .connect source outletSlot target inletSlot =>
      match s.connect source outletSlot target inletSlot with
      | .ok (s, added) => (s, .connected added)
      | .error fault => (s, .refused (.graph fault))

/-- Answers a message. -/
def Session.respond (s : Session) (message : Fields) : Session × Reply :=
  match Request.ofMessage message with
  | .ok request => s.perform request
  | .error fault => (s, .refused (.request fault))

def symbolsValue (symbols : List (String × Nat)) : Value :=
  .object (symbols.map fun (name, id) => (name, .int id))

def warningsValue (warnings : List Script.Warning) : Value :=
  .list (warnings.map fun warning => .text warning.message)

def Reply.toValue : Reply → Value
  | .compiled result =>
      .object [("type", .text "COMPILE_RESULT"), ("ok", .bool result.isOk),
        ("error", (result.fault.map fun fault => Value.text fault.message).getD .null),
        ("symbols", symbolsValue result.symbols), ("warnings", warningsValue result.warnings)]
  | .ticked status => status.toValue
  | .loaded count => .object [("type", .text "LOADED"), ("nodes", .int count)]
  | .saved text => .object [("type", .text "SAVED"), ("text", .text text)]
  | .spawned id => .object [("type", .text "SPAWNED"), ("node_id", .int id)]
  | .removed => .object [("type", .text "ACK"), ("message_type", .text "REMOVE")]
  | .connected added =>
      .object [("type", .text "ACK"), ("message_type", .text "CONNECT"), ("added", .bool added)]
  | .refused fault => .object [("type", .text "ERROR"), ("message", .text fault.message)]

end SignalGraph
