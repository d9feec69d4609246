import SignalGraph.Text.Lines
import SignalGraph.Value.Yaml.Lexer
import SignalGraph.Value.Yaml.Node

/-!
The data that a YAML text describes. Every node must be what its tag says, and they are looked at
level by level from the top; of what lies below the parts of the top, nothing else is asked.
-/

namespace SignalGraph.Yaml

/-- What a node stands for. Of what has parts only the kind counts. -/
inductive Datum where
  | null
  | bool (b : Bool)
  | int (n : Int)
  | float (x : Float)
  | text (s : String)
  | bytes (bytes : List UInt8)
  | moment (moment : Moment)
  | list
  | mapping
  | set

/-- What stands at the top of a document, and its entries if it is a mapping. -/
structure Outline where
  top : Datum
  entries : List (Datum × Datum) := []

namespace NodeTable

/-- The text of a scalar. A mapping that has a key with the tag for that may stand for a scalar. -/
def scalarText (t : NodeTable) (fuel : Nat) (content : Content) : Except Fault (List Char) :=
  match fuel, content with
  | _, .scalar text => .ok text
  | fuel + 1, .mapping entries =>
      match entries.find? fun entry => (t.node entry.1).tag = .value with
      | some (_, value) => t.scalarText fuel (t.node value).content
      | none => .error .wrongContent
  | _, _ => .error .wrongContent

/-- What a node stands for, as its tag says. -/
def datum (t : NodeTable) (node : Node) : Except Fault Datum :=
  let read {α : Type} (reader : List Char → Except ScalarFault α) (kind : α → Datum) :
      Except Fault Datum := do
    let text ← t.scalarText t.nodes.size node.content
    return kind (← (reader text).mapError .scalar)
  match node.tag with
  | .null => read (fun _ => .ok ()) fun _ => .null
  | .bool => read readTruth .bool
  | .int => read readInt .int
  | .float => read readFloat .float
  | .text => read .ok fun text => .text (.ofList text)
  | .moment => read readMoment .moment
  | .binary => do return .bytes (← readBinary (← t.scalarText t.nodes.size node.content))
  | .list => .ok .list
  | .pairs => .ok .list
  | .mapping => .ok .mapping
  | .set => .ok .set
  | .merge => .error (.unknownTag (commonStart ++ "merge"))
  | .value => .error (.unknownTag (commonStart ++ "value"))
  | .other name => .error (.unknownTag name)

/-- A node as a key: the tag for a value that stands for a mapping makes it a text. -/
def asKey (node : Node) : Node := if node.tag = .value then { node with tag := .text } else node

/-- The entries of mappings that are merged come first, those of the last mapping of a list before
those of the others, and then the mapping's own. A mapping adds nothing to itself; `within` has the
mappings that are being put together. -/
def entries (t : NodeTable) (fuel : Nat) (within : List Nat) (number : Nat) :
    Except Fault (List (Nat × Nat)) :=
  match fuel, (t.node number).content with
  | fuel + 1, .mapping own => do
      if number ∈ within then return []
      let part (other : Nat) : Except Fault (List (Nat × Nat)) :=
        match (t.node other).content with
        | .mapping _ => t.entries fuel (number :: within) other
        | _ => .error .notMergeable
      let merged ← own.mapM fun (key, value) =>
        if (t.node key).tag ≠ .merge then return []
        else
          match (t.node value).content with
          | .list items => do return (← items.mapM part).reverse.flatten
          | _ => part value
      return merged.flatten ++ own.filter fun entry => (t.node entry.1).tag ≠ .merge
  | _, _ => .error .wrongContent

/-- The entries of a mapping together with those that are merged into it. -/
def allEntries (t : NodeTable) (number : Nat) : Except Fault (List (Nat × Nat)) :=
  t.entries (t.nodes.size + 1) [] number

/-- What has been looked at, and the nodes whose parts are next, the last first. -/
structure Survey where
  seen : Array Bool
  next : List Nat := []

/-- Looks at a node, and at its parts later if it has any. -/
def look (t : NodeTable) (s : Survey) (number : Nat) (node : Node) : Except Fault Survey := do
  if s.seen.getD number false then return s
  let _ ← t.datum node
  return {
    seen := s.seen.setIfInBounds number true
    next := if node.tag.isCompound then number :: s.next else s.next }

def lookAtEntry (t : NodeTable) (s : Survey) (entry : Nat × Nat) : Except Fault Survey := do
  let key := asKey (t.node entry.1)
  let s ← t.look s entry.1 key
  if key.tag.isCompound then throw .containerKey
  t.look s entry.2 (t.node entry.2)

/-- Looks at an item of a list of pairs. -/
def lookAtPair (t : NodeTable) (s : Survey) (number : Nat) : Except Fault Survey :=
  match (t.node number).content with
  | .mapping [(key, value)] => do t.look (← t.look s key (t.node key)) value (t.node value)
  | _ => .error .wrongContent

/-- Looks at the parts of a node. -/
def lookAtParts (t : NodeTable) (s : Survey) (number : Nat) : Except Fault Survey := do
  let node := t.node number
  match node.tag, node.content with
  | .list, .list items => items.foldlM (fun s item => t.look s item (t.node item)) s
  | .pairs, .list items => items.foldlM t.lookAtPair s
  | .mapping, .mapping _ => (← t.allEntries number).foldlM t.lookAtEntry s
  | .set, .mapping _ => (← t.allEntries number).foldlM t.lookAtEntry s
  | _, _ => throw .wrongContent

/-- Looks at one level after the other. There are no more levels than nodes. -/
def survey (t : NodeTable) (levels : Nat) (s : Survey) : Except Fault Unit :=
  match levels with
  | 0 => .ok ()
  | levels + 1 => do
      if s.next.isEmpty then return
      t.survey levels (← s.next.reverse.foldlM t.lookAtParts { s with next := [] })

/-- What stands at the top, if every node is what its tag says. -/
def outline (t : NodeTable) : Except Fault Outline := do
  let some number := t.top | return { top := .null }
  let top := t.node number
  t.survey (t.nodes.size + 1)
    (← t.look { seen := Array.replicate t.nodes.size false } number top)
  let datum ← t.datum top
  match datum with
  | .mapping =>
      let entries ← (← t.allEntries number).mapM fun (key, value) => do
        return (← t.datum (asKey (t.node key)), ← t.datum (asKey (t.node value)))
      return { top := datum, entries }
  | datum => return { top := datum }

end NodeTable

/-- Characters that a text may hold. -/
def isAllowed (c : Char) : Bool :=
  c = '\t' || c = '\n' || (0x20 ≤ c.toNat && c.toNat ≤ 0x7e) || c.toNat = 0x85 ||
    (0xa0 ≤ c.toNat && c.toNat ≤ 0xfffd) || 0x10000 ≤ c.toNat

/-- What the only document of a text describes; null if there is none. -/
def read (s : String) : Except Fault Outline := do
  let cs := Text.unifyLineEnds s.toList
  if let some c := cs.find? fun c => !isAllowed c then throw (.unprintable c)
  (← NodeTable.ofEvents (Event.ofTokens (Token.ofText cs))).outline

end SignalGraph.Yaml
