/-!
Positions in a YAML text whose line ends are unified. Columns matter, because they say which entries
belong together, and so do lines, because a key ends on the line on which it starts.
-/

namespace SignalGraph.Yaml

def isBreak (c : Char) : Bool :=
  c = '\n' || c.toNat = 0x85 || c.toNat = 0x2028 || c.toNat = 0x2029

def isSpace (c : Char) : Bool := c = ' ' || c = '\t'

/-- The mark of byte order, which takes no room on a line. -/
def isOrderMark (c : Char) : Bool := c.toNat = 0xfeff

/-- Whether a line end follows, or nothing at all. -/
def atLineEnd (cs : List Char) : Bool := cs.head?.all isBreak

/-- Whether nothing but a space or a line end follows, or nothing at all. -/
def atSpace (cs : List Char) : Bool := cs.head?.all fun c => c = ' ' || isBreak c

/-- Whether nothing but a blank or a line end follows, or nothing at all. -/
def atGap (cs : List Char) : Bool := cs.head?.all fun c => isSpace c || isBreak c

/-- What is left of a text, and where that is. -/
structure Cursor where
  rest : List Char
  line : Nat := 0
  column : Nat := 0
  offset : Nat := 0
deriving Repr, DecidableEq

/-- Behind the next `count` characters, none of which ends a line. -/
def Cursor.drop (p : Cursor) (count : Nat) : Cursor :=
  { p with
    rest := p.rest.drop count
    column := p.column + (p.rest.take count).countP fun c => !isOrderMark c
    offset := p.offset + count }

/-- Behind the next character. -/
def Cursor.next (p : Cursor) : Cursor :=
  match p.rest with
  | [] => p
  | c :: cs =>
      if isBreak c then { rest := cs, line := p.line + 1, column := 0, offset := p.offset + 1 }
      else p.drop 1

/-- Behind the characters of a class that does not hold line ends. -/
def Cursor.dropAll (p : Cursor) (skipped : Char → Bool) : Cursor :=
  p.drop (p.rest.takeWhile skipped).length

def Cursor.dropSpaces (p : Cursor) : Cursor := p.dropAll (· = ' ')

/-- Behind spaces and a comment, at the end of the line if there is a comment. -/
def Cursor.dropComment (p : Cursor) : Cursor :=
  let p := p.dropSpaces
  if p.rest.head? = some '#' then p.dropAll fun c => !isBreak c else p

/-- Behind spaces, line ends and comments; a tab is no blank between tokens. Each step goes to the
end of a line. -/
def Cursor.skipLines (fuel : Nat) (p : Cursor) : Cursor :=
  let p := p.dropComment
  match fuel with
  | 0 => p
  | fuel + 1 => if p.rest.head?.any isBreak then p.next.skipLines fuel else p

/-- At the next token. -/
def Cursor.skip (p : Cursor) : Cursor :=
  let p := if p.offset = 0 && p.rest.head?.any isOrderMark then p.next else p
  p.skipLines p.rest.length

/-- Whether a line starts here with three of a character and then a gap. -/
def Cursor.atRule (p : Cursor) (c : Char) : Bool :=
  p.column = 0 && p.rest.take 3 = [c, c, c] && atGap (p.rest.drop 3)

def Cursor.atDocumentStart (p : Cursor) : Bool := p.atRule '-'

def Cursor.atDocumentEnd (p : Cursor) : Bool := p.atRule '.'

/-- Whether a line with a document's mark starts here. -/
def Cursor.atMark (p : Cursor) : Bool := p.atDocumentStart || p.atDocumentEnd

/-- A line end as a text keeps it. -/
def keptBreak (c : Char) : Char := if c = '\u2028' || c = '\u2029' then c else '\n'

/-- How a text that goes on over line ends reads them: one line feed is a space, and of more the
first is dropped. The other kinds of line ends stay. -/
def foldBreaks : List Char → List Char
  | [] => []
  | c :: more => if c ≠ '\n' then c :: more else if more.isEmpty then [' '] else more

end SignalGraph.Yaml
