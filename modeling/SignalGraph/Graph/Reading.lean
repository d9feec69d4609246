import SignalGraph.Graph.Basic
import SignalGraph.Node.Data
import SignalGraph.Text.Lines

/-!
Saved graphs read line by line: a header, a line for each node, and a line for each connection. A
line may meet a fault. Faults of values, of missing words and slots, and of unknown kinds are passed
over; any other fault would end the reading. Nothing is read without the header.
-/

namespace SignalGraph

/-- The first line of a saved graph. -/
def archiveHeader : String := "TOYCON_v1"

/-- Whether a text is a saved graph rather than a script. -/
def isArchive (text : String) : Bool :=
  archiveHeader.toList.isPrefixOf (Text.stripLeft Text.isBlank text.toList)

/-- What a line of a saved graph says. -/
inductive Record where
  | node (id : Int) (body : Body) (x y : Int)
  | link (source outletSlot target inletSlot : Int)

/-- Words joined by single blanks. -/
def joinWords (words : List (List Char)) : String :=
  " ".intercalate (words.map String.ofList)

/-- The classes of faults that the reading of lines tells apart. Data that is not base64 or not
UTF-8 is a wrong value. -/
inductive FaultClass where
  | value
  | index
  | unknownKind
  | key
  | type
  | overflow
deriving Repr, DecidableEq

/-- Whether a fault of this class is passed over. -/
def FaultClass.isSkipped : FaultClass → Bool
  | .value => true
  | .index => true
  | .unknownKind => true
  | _ => false

def NumberFault.faultClass : NumberFault → FaultClass
  | .malformedFloat _ => .value
  | .malformedInt _ => .value
  | .floatOf _ => .type
  | .intOf _ => .type
  | .tooLarge => .overflow
  | .infinite => .overflow
  | .undefined => .value

def CreateFault.faultClass : CreateFault → FaultClass
  | .unknownKind _ => .unknownKind
  | .unexpectedParam _ _ => .type
  | .ownerParam _ => .type
  | .kindParam => .type
  | .operation _ _ => .value
  | .number fault => fault.faultClass

def DataFault.faultClass : DataFault → FaultClass
  | .create fault => fault.faultClass
  | _ => .value

def GraphFault.faultClass : GraphFault → FaultClass
  | .noNode _ => .key
  | .compoundId _ => .type
  | .notMember _ => .key
  | .alreadyMember _ => .value
  | .noOutlet _ _ _ => .index
  | .noInlet _ _ _ => .index
  | .place fault => fault.faultClass

/-- Why a line of a saved graph is not taken in. -/
inductive LineFault where
  | blank
  | unknownTag (tag : String)
  | unknownEnd (source target : Int)
  | missing
  /-- Fewer numbers than a connection has. -/
  | tooFew (count : Nat)
  | number (fault : Decimal.IntFault)
  | data (fault : DataFault)
  | graph (fault : GraphFault)

/-- A line without words, one of another tag, and a connection to a node that no line has made, are
left alone without any fault being raised. -/
def LineFault.faultClass? : LineFault → Option FaultClass
  | .blank => none
  | .unknownTag _ => none
  | .unknownEnd _ _ => none
  | .missing => some .index
  | .tooFew _ => some .value
  | .number _ => some .value
  | .data fault => some fault.faultClass
  | .graph fault => some fault.faultClass

/-- Whether the reading goes on after a line. -/
def LineFault.isSkipped (fault : LineFault) : Bool :=
  (fault.faultClass?.map FaultClass.isSkipped).getD true

/-- The word at a position, if there are as many. -/
def wordAt (words : List (List Char)) (i : Nat) : Except LineFault (List Char) :=
  words[i]?.elim (.error .missing) .ok

def readWord (word : List Char) : Except LineFault Int :=
  (Decimal.readInt (String.ofList word)).mapError .number

def numberAt (words : List (List Char)) (i : Nat) : Except LineFault Int := do
  readWord (← wordAt words i)

/-- The kind of a name. -/
def readKind (name : List Char) : Except LineFault Kind :=
  (Kind.ofValue (.text (String.ofList name))).mapError fun fault => .data (.create fault)

/-- The node that the words behind the tag of its line describe. Its data are all words after its
place. -/
def Record.readNode (words : List (List Char)) : Except LineFault Record := do
  let id ← numberAt words 0
  let kind ← readKind (← wordAt words 1)
  let x ← numberAt words 2
  let y ← numberAt words 3
  let body ← (Body.ofData kind (joinWords (words.drop 4))).mapError .data
  return .node id body x y

/-- The connection that the words behind the tag of its line describe. Numbers that are there are
read before one that is missing is noticed; words after the four numbers do not count. -/
def Record.readLink (words : List (List Char)) : Except LineFault Record := do
  match ← (words.take 4).mapM readWord with
  | [source, outletSlot, target, inletSlot] => return .link source outletSlot target inletSlot
  | numbers => throw (.tooFew numbers.length)

/-- The record of a line, or its first fault. -/
def Record.read (line : List Char) : Except LineFault Record :=
  match Text.words line with
  | tag :: words =>
      match String.ofList tag with
      | "NODE" => Record.readNode words
      | "CONN" => Record.readLink words
      | tag => .error (.unknownTag tag)
  | [] => .error .blank

/-- The record of a line, if it has one. -/
def Record.ofLine? (line : List Char) : Option Record := (Record.read line).toOption

/-- A circuit that is being loaded, and the nodes by the ids of the saved text. -/
structure Loading where
  circuit : Circuit
  table : List (Int × Ref) := []

/-- Carries out a record: what it leaves, and the fault that it meets. -/
def Loading.attempt (l : Loading) : Record → Loading × Option LineFault
  | .node id body x y =>
      let (pool, ref) := l.circuit.pool.add (.ofBody body)
      match ({ l.circuit with pool } : Circuit).spawn ref (.int x) (.int y) with
      | (circuit, none) => ({ circuit, table := putEntry id ref l.table }, none)
      | (circuit, some fault) => ({ l with circuit }, some (.graph fault))
  | .link source outletSlot target inletSlot =>
      match l.table.lookup source, l.table.lookup target with
      | some source, some target =>
          match l.circuit.connect source outletSlot target inletSlot with
          | .ok (circuit, _) => ({ l with circuit }, none)
          | .error fault => (l, some (.graph fault))
      | _, _ => (l, some (.unknownEnd source target))

/-- What a record leaves. -/
def Loading.take (l : Loading) (record : Record) : Loading := (l.attempt record).1

def Loading.attemptLine (l : Loading) (line : List Char) : Loading × Option LineFault :=
  match Record.read line with
  | .ok record => l.attempt record
  | .error fault => (l, some fault)

/-- What a line leaves. -/
def Loading.takeLine (l : Loading) (line : List Char) : Loading := (l.attemptLine line).1

/-- Reads lines up to the first fault that is not passed over. -/
def Loading.attemptLines (l : Loading) : List (List Char) → Loading × Option LineFault
  | [] => (l, none)
  | line :: lines =>
      match l.attemptLine line with
      | (l, some fault) => if fault.isSkipped then l.attemptLines lines else (l, some fault)
      | (l, none) => l.attemptLines lines

/-- Replaces a circuit's nodes by those that the lines of a saved graph describe, up to a fault that
is not passed over. -/
def Circuit.readLines (c : Circuit) (lines : List (List Char)) : Circuit × Option LineFault :=
  let cleared := { c with graph := c.graph.clear }
  match lines with
  | header :: records =>
      if String.ofList (Text.strip Text.isBlank header) = archiveHeader then
        let (l, fault) := Loading.attemptLines { circuit := cleared } records
        (l.circuit, fault)
      else (cleared, none)
  | [] => (cleared, none)

/-- What the lines of a saved graph leave of a circuit. -/
def Circuit.loadLines (c : Circuit) (lines : List (List Char)) : Circuit := (c.readLines lines).1

def Circuit.load (c : Circuit) (text : String) : Circuit := c.loadLines (Text.lines text.toList)

end SignalGraph
