/-!
Lines of a text. `lines` ends a line at every kind of line end and keeps none of them, so that no
line follows the last end. `unifyLineEnds` is how a text file is read: each carriage return, alone
or before a line feed, becomes one line feed.
-/

namespace SignalGraph.Text

/-- Characters that end a line; a carriage return and the line feed after it are one end. -/
def isLineEnd (c : Char) : Bool :=
  (0x0a ≤ c.toNat && c.toNat ≤ 0x0d) || (0x1c ≤ c.toNat && c.toNat ≤ 0x1e) || c.toNat = 0x85 ||
    c.toNat = 0x2028 || c.toNat = 0x2029

/-- A character put before the first of some lines. -/
def consLine (c : Char) : List (List Char) → List (List Char)
  | [] => [[c]]
  | line :: lines => (c :: line) :: lines

def lines : List Char → List (List Char)
  | [] => []
  | '\r' :: '\n' :: cs => [] :: lines cs
  | c :: cs => if isLineEnd c then [] :: lines cs else consLine c (lines cs)

def unifyLineEnds : List Char → List Char
  | [] => []
  | '\r' :: '\n' :: cs => '\n' :: unifyLineEnds cs
  | '\r' :: cs => '\n' :: unifyLineEnds cs
  | c :: cs => c :: unifyLineEnds cs

end SignalGraph.Text
