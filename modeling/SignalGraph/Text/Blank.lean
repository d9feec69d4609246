/-!
Blank characters: the white space of every script, tabs and line ends included, and the ways a
text is cut at it. `strip` takes blanks off both ends and `words` are the longest runs without
any.
-/

namespace SignalGraph.Text

/-- The code points that count as blank, as inclusive ranges in ascending order. -/
def blankRanges : List (Nat × Nat) := [
  (0x09, 0x0d), (0x1c, 0x20), (0x85, 0x85), (0xa0, 0xa0), (0x1680, 0x1680), (0x2000, 0x200a),
  (0x2028, 0x2029), (0x202f, 0x202f), (0x205f, 0x205f), (0x3000, 0x3000)]

/-- Whether a code point lies in one of the given inclusive ranges. -/
def inRanges (ranges : List (Nat × Nat)) (code : Nat) : Bool :=
  ranges.any fun range => range.1 ≤ code && code ≤ range.2

def isBlank (c : Char) : Bool := inRanges blankRanges c.toNat

/-- Blanks of a number's text: the four separators U+001C to U+001F are not among them. -/
def isNumeralBlank (c : Char) : Bool :=
  isBlank c && !(0x1c ≤ c.toNat && c.toNat ≤ 0x1f)

def stripLeft (blank : Char → Bool) (cs : List Char) : List Char := cs.dropWhile blank

/-- A text without the blanks at its end. -/
def stripRight (blank : Char → Bool) : List Char → List Char
  | [] => []
  | c :: cs =>
      match stripRight blank cs with
      | [] => if blank c then [] else [c]
      | kept => c :: kept

def strip (blank : Char → Bool) (cs : List Char) : List Char :=
  stripRight blank (stripLeft blank cs)

/-- The longest runs of characters that are not blank, in order. -/
def words : List Char → List (List Char)
  | [] => []
  | c :: cs =>
      if isBlank c then words cs
      else if cs.head?.all isBlank then [c] :: words cs
      else
        match words cs with
        | [] => [[c]]
        | word :: others => (c :: word) :: others

end SignalGraph.Text
