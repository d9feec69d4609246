import SignalGraph.Value.Basic
import SignalGraph.Decimal.Style
import SignalGraph.Text.Quoted

/-!
Values as messages show them. `display` leaves a text as it is; inside lists and objects every text
is quoted, as `inspect` quotes all.
-/

namespace SignalGraph

mutual

/-- A value with its texts quoted. -/
def Value.inspect : Value → String
  | .null => "None"
  | .bool b => if b then "True" else "False"
  | .int n => Text.ofInt n
  | .float x => Decimal.plain x
  | .text s => Text.quoted s
  | .list items => "[" ++ ", ".intercalate (inspectItems items) ++ "]"
  | .object fields => "\x7b" ++ ", ".intercalate (inspectEntries fields) ++ "\x7d"

private def inspectItems : List Value → List String
  | [] => []
  | v :: vs => v.inspect :: inspectItems vs

private def inspectEntries : List (String × Value) → List String
  | [] => []
  | (name, v) :: rest => (Text.quoted name ++ ": " ++ v.inspect) :: inspectEntries rest

end

def Value.display : Value → String
  | .text s => s
  | v => v.inspect

end SignalGraph
