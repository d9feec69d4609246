import SignalGraph.Value.Yaml.Event
import SignalGraph.Value.Yaml.Scalar

/-!
The nodes of a document. As aliases may name a node again, even within itself, nodes refer to their
parts by numbers.
-/

namespace SignalGraph.Yaml

inductive Content where
  | scalar (text : List Char)
  | list (items : List Nat)
  | mapping (entries : List (Nat × Nat))
deriving Repr, DecidableEq

structure Node where
  tag : Tag
  content : Content
deriving Repr, DecidableEq

instance : Inhabited Node := ⟨{ tag := .null, content := .scalar [] }⟩

/-- The nodes of a document by their numbers, and the one at its top, if there is a document. -/
structure NodeTable where
  nodes : Array Node := #[]
  top : Option Nat := none

def NodeTable.node (t : NodeTable) (number : Nat) : Node := t.nodes.getD number default

/-- A list or mapping that has started and not ended, with the numbers of its parts, the last first.
The parts of a mapping are keys and values in turn. -/
structure OpenNode where
  number : Nat
  parts : List Nat := []

/-- Nodes so far, those that are open, the innermost first, and those that aliases may name. -/
structure Composition where
  table : NodeTable := {}
  opened : List OpenNode := []
  anchors : List (String × Nat) := []

namespace Composition

/-- Makes a complete node part of the innermost open one, or the top of the document. -/
def attach (c : Composition) (number : Nat) : Composition :=
  match c.opened with
  | node :: others =>
      { c with opened := { node with parts := number :: node.parts } :: others }
  | [] => { c with table := { c.table with top := some number } }

/-- Adds a node, which its anchor may name from now on. -/
def add (c : Composition) (anchor : Option String) (node : Node) :
    Except Fault (Composition × Nat) := do
  if let some name := anchor then
    if (c.anchors.lookup name).isSome then throw (.repeatedAnchor name)
  let number := c.table.nodes.size
  let anchors := (anchor.map fun name => (name, number)).toList ++ c.anchors
  return ({ c with table := { c.table with nodes := c.table.nodes.push node }, anchors }, number)

def openNode (c : Composition) (anchor : Option String) (node : Node) :
    Except Fault Composition := do
  let (c, number) ← c.add anchor node
  return { c with opened := { number } :: c.opened }

/-- Keys with the values behind them. -/
def pairUp : List Nat → List (Nat × Nat)
  | key :: value :: parts => (key, value) :: pairUp parts
  | _ => []

/-- The content of a list or mapping with these parts. -/
def withParts (content : Content) (parts : List Nat) : Content :=
  match content with
  | .list _ => .list parts
  | .mapping _ => .mapping (pairUp parts)
  | content => content

/-- The nodes after one more event. There is only one document. -/
def step (c : Composition) : Event → Except Fault Composition
  | .documentStart => if c.table.top.isSome then .error .secondDocument else .ok c
  | .documentEnd => .ok c
  | .alias name =>
      match c.anchors.lookup name with
      | some number => .ok (c.attach number)
      | none => .error (.unknownAlias name)
  | .scalar properties isOpen text => do
      let formTag := if isOpen then Tag.ofPlain text else .text
      let tag := (properties.tag.map Tag.ofName).getD formTag
      let (c, number) ← c.add properties.anchor { tag, content := .scalar text }
      return c.attach number
  | .listStart properties =>
      let tag := (properties.tag.map Tag.ofName).getD .list
      c.openNode properties.anchor { tag, content := .list [] }
  | .mappingStart properties =>
      let tag := (properties.tag.map Tag.ofName).getD .mapping
      c.openNode properties.anchor { tag, content := .mapping [] }
  | .collectionEnd =>
      match c.opened with
      | [] => .ok c
      | ended :: opened =>
          let complete (node : Node) : Node :=
            { node with content := withParts node.content ended.parts.reverse }
          let nodes := c.table.nodes.modify ended.number complete
          .ok ({ c with opened, table := { c.table with nodes } }.attach ended.number)

end Composition

/-- The nodes that events describe. -/
def NodeTable.ofEvents (events : Feed Event) : Except Fault NodeTable :=
  (events.foldlM Composition.step {}).map Composition.table

end SignalGraph.Yaml
