/-!
Loosely typed data, as messages, documents and settings bring it. The fields of an object keep
their order; each name stands once.
-/

namespace SignalGraph

inductive Value where
  | null
  | bool (b : Bool)
  | int (n : Int)
  | float (x : Float)
  | text (s : String)
  | list (items : List Value)
  | object (fields : List (String × Value))
deriving Inhabited

/-- Named values in order. -/
abbrev Fields := List (String × Value)

/-- Pairs of a key and a value with the value of one key set: in place where the key is there, else
at the end. -/
def putEntry {α β : Type} [BEq α] (key : α) (value : β) : List (α × β) → List (α × β)
  | [] => [(key, value)]
  | entry :: entries =>
      if entry.1 == key then (key, value) :: entries else entry :: putEntry key value entries

/-- What counts as true: all but null, false, zero, and what is empty. -/
def Value.truth : Value → Bool
  | .null => false
  | .bool b => b
  | .int n => n ≠ 0
  | .float x => x != 0.0
  | .text s => !s.isEmpty
  | .list items => !items.isEmpty
  | .object fields => !fields.isEmpty

/-- The name that messages give to the type of a value. -/
def Value.typeName : Value → String
  | .null => "NoneType"
  | .bool _ => "bool"
  | .int _ => "int"
  | .float _ => "float"
  | .text _ => "str"
  | .list _ => "list"
  | .object _ => "dict"

end SignalGraph
