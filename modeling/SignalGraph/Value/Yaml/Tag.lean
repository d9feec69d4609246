/-!
Tags, which say of what kind a node is.
-/

namespace SignalGraph.Yaml

inductive Tag where
  | null
  | bool
  | int
  | float
  | text
  | binary
  | moment
  | list
  /-- A list of mappings that have one entry each. -/
  | pairs
  | mapping
  | set
  /-- The tag of a key whose value is merged into the mapping. -/
  | merge
  /-- The tag of a key whose value stands for the mapping where a scalar is asked for. -/
  | value
  | other (name : String)
deriving Repr, DecidableEq

/-- What tags that all texts have in common start with. -/
def commonStart : String := "tag:yaml.org,2002:"

def commonTags : List (String × Tag) := [
  ("null", .null), ("bool", .bool), ("int", .int), ("float", .float), ("str", .text),
  ("binary", .binary), ("timestamp", .moment), ("seq", .list), ("omap", .pairs),
  ("pairs", .pairs), ("map", .mapping), ("set", .set), ("merge", .merge), ("value", .value)]

/-- The tag that is written in full as a text. -/
def Tag.ofName (name : String) : Tag :=
  ((commonTags.find? fun entry => commonStart ++ entry.1 = name).map Prod.snd).getD (.other name)

/-- Whether what a tag asks for has parts. Nothing can be looked up by such a key. -/
def Tag.isCompound : Tag → Bool
  | .list => true
  | .pairs => true
  | .mapping => true
  | .set => true
  | _ => false

end SignalGraph.Yaml
