import SignalGraph.Value.Basic
import SignalGraph.Decimal.Style
import SignalGraph.Text.Quoted

/-!
Values as JSON text in ASCII. `compact` writes one line with a blank after each comma and colon,
`indented` one item to a line, two blanks deeper for each level.
-/

namespace SignalGraph.Json

/-- A code unit of sixteen bits as an escape. -/
def unitEscape (unit : Nat) : List Char := '\\' :: 'u' :: Text.hexDigits 4 unit

/-- A character inside a JSON text. All that is not printable ASCII is escaped, above U+FFFF as a
pair of surrogates. -/
def escape (c : Char) : List Char :=
  if c = '"' || c = '\\' then ['\\', c]
  else if c = '\n' then ['\\', 'n']
  else if c = '\r' then ['\\', 'r']
  else if c = '\t' then ['\\', 't']
  else if c.toNat = 0x08 then ['\\', 'b']
  else if c.toNat = 0x0c then ['\\', 'f']
  else if 0x20 ≤ c.toNat && c.toNat < 0x7f then [c]
  else if c.toNat < 0x10000 then unitEscape c.toNat
  else
    let offset := c.toNat - 0x10000
    unitEscape (0xd800 + offset / 0x400) ++ unitEscape (0xdc00 + offset % 0x400)

def string (s : String) : String := String.ofList ('"' :: s.toList.flatMap escape ++ ['"'])

/-- Infinite numbers and what is not a number have names of their own. -/
def float (x : Float) : String :=
  match Decimal.Parts.ofFloat x with
  | .notANumber => "NaN"
  | .infinite negative => if negative then "-Infinity" else "Infinity"
  | .finite .. => Decimal.plain x

mutual

def compact : Value → String
  | .null => "null"
  | .bool b => if b then "true" else "false"
  | .int n => Text.ofInt n
  | .float x => float x
  | .text s => string s
  | .list items => "[" ++ ", ".intercalate (compactItems items) ++ "]"
  | .object fields => "\x7b" ++ ", ".intercalate (compactEntries fields) ++ "\x7d"

def compactItems : List Value → List String
  | [] => []
  | v :: vs => compact v :: compactItems vs

def compactEntries : List (String × Value) → List String
  | [] => []
  | (name, v) :: rest => (string name ++ ": " ++ compact v) :: compactEntries rest

end

/-- A line end and the blanks of one level. -/
def lineBreak (level : Nat) : String := "\n" ++ String.ofList (List.replicate (2 * level) ' ')

/-- Items between brackets, each on a line of its own; no line at all without items. -/
def block (level : Nat) (opening closing : String) (items : List String) : String :=
  if items.isEmpty then opening ++ closing
  else
    opening ++ lineBreak (level + 1) ++ ("," ++ lineBreak (level + 1)).intercalate items ++
      lineBreak level ++ closing

mutual

def indentedAt (level : Nat) : Value → String
  | .list items => block level "[" "]" (indentedItems (level + 1) items)
  | .object fields => block level "\x7b" "\x7d" (indentedEntries (level + 1) fields)
  | v => compact v

private def indentedItems (level : Nat) : List Value → List String
  | [] => []
  | v :: vs => indentedAt level v :: indentedItems level vs

private def indentedEntries (level : Nat) : List (String × Value) → List String
  | [] => []
  | (name, v) :: rest =>
      (string name ++ ": " ++ indentedAt level v) :: indentedEntries level rest

end

def indented (v : Value) : String := indentedAt 0 v

end SignalGraph.Json
