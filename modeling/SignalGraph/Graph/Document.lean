import SignalGraph.Form.Check
import SignalGraph.Graph.Archive

/-!
Graphs as documents: nodes with their parameters, and connections between them by the ids that the
document gives. A document is checked before it is built: each field on its own, then ids, parameters
and slots against each other, and all that is wrong is reported at once.
-/

namespace SignalGraph

structure NodeEntry where
  id : Int
  kind : Kind
  x : Int
  y : Int
  params : Fields

structure LinkEntry where
  source : Int
  outletSlot : Int
  target : Int
  inletSlot : Int
deriving Repr, DecidableEq

structure Document where
  nodes : List NodeEntry
  links : List LinkEntry

/-- The only version of documents. -/
def Document.version : String := archiveHeader

def NodeEntry.check : Value → Form.Checked NodeEntry :=
  Form.model "NodeEntry" ["id", "kind", "x", "y", "params"] fun fields =>
    let id (v : Value) : Form.Checked Int := do Form.atLeast 0 (← Form.int v)
    let kind (v : Value) : Form.Checked Kind :=
      ((Kind.ofValue v).toOption).elim
        (Form.issue (.notChoice (Kind.all.map Kind.name))) .ok
    .apply (.apply (.apply (.apply (.map NodeEntry.mk
      (Form.required "id" id fields))
      (Form.required "kind" kind fields))
      (Form.optional "x" Form.int 0 fields))
      (Form.optional "y" Form.int 0 fields))
      (Form.optional "params" Form.object [] fields)

def LinkEntry.check : Value → Form.Checked LinkEntry :=
  Form.model "ConnectionEntry" ["source", "source_slot", "target", "target_slot"] fun fields =>
    let slot (v : Value) : Form.Checked Int := do Form.atLeast 0 (← Form.int v)
    .apply (.apply (.apply (.map LinkEntry.mk
      (Form.required "source" Form.int fields))
      (Form.required "source_slot" slot fields))
      (Form.required "target" Form.int fields))
      (Form.required "target_slot" slot fields)

def Document.checkVersion (v : Value) : Form.Checked Unit := do
  let version ← Form.text v
  if version = Document.version then return ()
  else Form.issue (.refused s!"unsupported graph version '{version}'")

/-- Checks the fields of a document, each on its own. -/
def Document.checkFields : Value → Form.Checked Document :=
  Form.model "GraphDocument" ["version", "nodes", "connections"] fun fields =>
    .apply (.apply (.map (fun _ => Document.mk)
      (Form.optional "version" Document.checkVersion () fields))
      (Form.optional "nodes" (Form.listOf NodeEntry.check) [] fields))
      (Form.optional "connections" (Form.listOf LinkEntry.check) [] fields)

/-- The body of an entry. -/
def NodeEntry.body (entry : NodeEntry) : Except CreateFault Body :=
  Body.createNamed (.text entry.kind.name) entry.params

/-- The ids that more than one entry bears, in ascending order. -/
def Document.duplicates (d : Document) : List Int :=
  let ids := d.nodes.map (·.id)
  ((ids.filter fun id => 1 < ids.count id).eraseDups).mergeSort fun a b => decide (a ≤ b)

/-- What is wrong with the ids, parameters and slots of a document. -/
inductive DocumentIssue where
  | duplicates (ids : List Int)
  | params (entry : NodeEntry) (fault : CreateFault)
  | noSource (i : Nat) (link : LinkEntry)
  | noTarget (i : Nat) (link : LinkEntry)
  | noOutlet (i : Nat) (link : LinkEntry)
  | noInlet (i : Nat) (link : LinkEntry)

/-- A connection as messages call it, by its position among all. -/
def LinkEntry.label (link : LinkEntry) (i : Nat) : String :=
  let source := s!"{Text.ofInt link.source}:{Text.ofInt link.outletSlot}"
  let target := s!"{Text.ofInt link.target}:{Text.ofInt link.inletSlot}"
  s!"connection #{i} ({source} -> {target})"

def DocumentIssue.message : DocumentIssue → String
  | .duplicates ids => "duplicate node ids: " ++ ", ".intercalate (ids.map Text.ofInt)
  | .params entry fault =>
      s!"node {Text.ofInt entry.id} ({entry.kind.name}) has invalid params: {fault.message}"
  | .noSource i link =>
      link.label i ++ s!" references missing source node {Text.ofInt link.source}"
  | .noTarget i link =>
      link.label i ++ s!" references missing target node {Text.ofInt link.target}"
  | .noOutlet i link => link.label i ++ s!" unknown output slot on node {Text.ofInt link.source}"
  | .noInlet i link => link.label i ++ s!" unknown input slot on node {Text.ofInt link.target}"

/-- How many inlets and outlets a node has. -/
structure SlotCounts where
  inlets : Nat
  outlets : Nat
deriving Repr, DecidableEq

def Body.slotCounts (body : Body) : SlotCounts :=
  { inlets := body.inlets.length, outlets := body.outlets.length }

/-- A document is refused for its fields, or because of a number beyond all doubles, which stops the
check at once. -/
inductive DocumentFault where
  | issues (issues : List Form.Issue)
  | tooLarge

/-- The slots of all nodes that can be made, by their ids, and the issues of all others. -/
def checkNodes (table : List (Int × SlotCounts)) :
    List NodeEntry → Except DocumentFault (List (Int × SlotCounts) × List DocumentIssue)
  | [] => .ok (table, [])
  | entry :: rest =>
      match entry.body with
      | .ok body => checkNodes (putEntry entry.id body.slotCounts table) rest
      | .error (.number .tooLarge) => .error .tooLarge
      | .error fault =>
          (checkNodes table rest).map fun (table, issues) =>
            (table, .params entry fault :: issues)

/-- The issues of a connection. Its slots are looked at only where both its ends are there. -/
def LinkEntry.issues (link : LinkEntry) (table : List (Int × SlotCounts)) (i : Nat) :
    List DocumentIssue :=
  match table.lookup link.source, table.lookup link.target with
  | none, _ => [.noSource i link]
  | some _, none => [.noTarget i link]
  | some source, some target =>
      (if (source.outlets : Int) ≤ link.outletSlot then [.noOutlet i link] else []) ++
        (if (target.inlets : Int) ≤ link.inletSlot then [.noInlet i link] else [])

/-- All issues of a document whose fields are valid. -/
def Document.issues (d : Document) : Except DocumentFault (List DocumentIssue) := do
  let duplicates := d.duplicates
  let (table, params) ← checkNodes [] d.nodes
  let links := d.links.zipIdx.flatMap fun (link, i) => link.issues table i
  return (if duplicates.isEmpty then [] else [.duplicates duplicates]) ++ params ++ links

/-- Accepts a document without issues. -/
def Document.validate (d : Document) : Except DocumentFault Document := do
  let issues ← d.issues
  if issues.isEmpty then return d
  else
    let reason := "; ".intercalate (issues.map DocumentIssue.message)
    throw (.issues [{ path := [], problem := .refused reason }])

/-- The document that loosely typed data describes. -/
def Document.ofValue (v : Value) : Except DocumentFault Document := do
  let d ← (Document.checkFields v).mapError .issues
  d.validate

inductive ExportFault where
  | noPosition (id : Int)
  | document (fault : DocumentFault)

/-- The entries of a graph's nodes, and those of its connections if all their ends are there. -/
def Circuit.entries (c : Circuit) : Except ExportFault Document := do
  let positions := c.positions
  let find (id : Int) : Except ExportFault Int :=
    match positions.lookup id with
    | some i => .ok i
    | none => .error (.noPosition id)
  let nodes ← c.nodes.mapM fun node => do
    return ({ id := ← find node.idNumber, kind := node.kind, x := node.x, y := node.y
              params := node.body.params } : NodeEntry)
  let links ← c.links.mapM fun link => do
    return ({ source := ← find link.source, outletSlot := link.outletSlot
              target := ← find link.target, inletSlot := link.inletSlot } : LinkEntry)
  return { nodes, links }

/-- The document of a graph, in which nodes go by their positions. -/
def Circuit.toDocument (c : Circuit) : Except ExportFault Document := do
  let d ← c.entries
  d.validate.mapError .document

inductive BuildFault where
  | create (fault : CreateFault)
  | noNode (id : Int)
  | graph (fault : GraphFault)

/-- Enters the nodes of a document, and keeps them by their ids. -/
def buildNodes (l : Loading) : List NodeEntry → Except BuildFault Loading
  | [] => .ok l
  | entry :: rest => do
      let body ← entry.body.mapError .create
      let (circuit, ref) := l.circuit.insert body entry.x entry.y
      buildNodes { circuit, table := putEntry entry.id ref l.table } rest

/-- Makes the connections of a document. -/
def buildLinks (l : Loading) : List LinkEntry → Except BuildFault Loading
  | [] => .ok l
  | link :: rest => do
      let some source := l.table.lookup link.source | throw (.noNode link.source)
      let some target := l.table.lookup link.target | throw (.noNode link.target)
      let (circuit, _) ←
        (l.circuit.connect source link.outletSlot target link.inletSlot).mapError .graph
      buildLinks { l with circuit } rest

/-- Replaces a circuit's nodes by those of a document. -/
def Document.build (d : Document) (c : Circuit) : Except BuildFault Circuit := do
  let l ← buildNodes { circuit := { c with graph := c.graph.clear } } d.nodes
  return (← buildLinks l d.links).circuit

/-- A value as it stands in a printed document: what is no finite number becomes null. -/
def finiteOrNull : Value → Value
  | .float x =>
      match Decimal.Parts.ofFloat x with
      | .finite .. => .float x
      | _ => .null
  | v => v

def NodeEntry.toValue (entry : NodeEntry) : Value :=
  .object [("id", .int entry.id), ("kind", .text entry.kind.name), ("x", .int entry.x),
    ("y", .int entry.y),
    ("params", .object (entry.params.map fun (name, v) => (name, finiteOrNull v)))]

def LinkEntry.toValue (link : LinkEntry) : Value :=
  .object [("source", .int link.source), ("source_slot", .int link.outletSlot),
    ("target", .int link.target), ("target_slot", .int link.inletSlot)]

def Document.toValue (d : Document) : Value :=
  .object [("version", .text Document.version), ("nodes", .list (d.nodes.map NodeEntry.toValue)),
    ("connections", .list (d.links.map LinkEntry.toValue))]

end SignalGraph
