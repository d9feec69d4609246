import SignalGraph.Value.Yaml.Cursor
import SignalGraph.Value.Yaml.Fault

/-!
Texts in indented lines behind a bar or an angle. Behind a bar every line end stays; behind an angle
the line ends between lines of text are folded. A sign says what becomes of the line ends after the
last line, and a digit how deep the lines are indented.
-/

namespace SignalGraph.Yaml

/-- What becomes of the line ends at the end of a block: all but one are dropped, or all, or none. -/
inductive Chomping where
  | clip
  | strip
  | keep
deriving Repr, DecidableEq

structure BlockHeader where
  chomping : Chomping := .clip
  indent : Option Nat := none

def chomping? (c : Char) : Option Chomping :=
  if c = '+' then some .keep else if c = '-' then some .strip else none

def indentDigit? (c : Char) : Option Nat :=
  if '0' ≤ c && c ≤ '9' then some (c.toNat - '0'.toNat) else none

/-- The marks behind the bar or the angle: a sign and a digit in any order, and how many these are. -/
def blockMarks : List Char → BlockHeader × Nat
  | [] => ({}, 0)
  | c :: cs =>
      match chomping? c, indentDigit? c with
      | some chomping, _ =>
          match cs.head?.bind indentDigit? with
          | some indent => ({ chomping, indent := some indent }, 2)
          | none => ({ chomping }, 1)
      | none, some indent =>
          match cs.head?.bind chomping? with
          | some chomping => ({ chomping, indent := some indent }, 2)
          | none => ({ indent := some indent }, 1)
      | none, none => ({}, 0)

/-- The header of a block from behind the bar or the angle, to the start of the next line. -/
def readBlockHeader (p : Cursor) : Except Fault (BlockHeader × Cursor) :=
  let (header, count) := blockMarks p.rest
  let marked := p.drop count
  let behind := marked.dropComment
  if header.indent = some 0 || !atSpace marked.rest || !atLineEnd behind.rest then
    .error .malformedToken
  else .ok (header, behind.next)

/-- Behind spaces, up to a column. -/
def Cursor.indentTo (p : Cursor) (column : Nat) : Cursor :=
  p.drop (min (column - p.column) (p.rest.takeWhile (· = ' ')).length)

/-- The line ends of empty lines, whose spaces up to a column do not count. -/
def blockBreaks (fuel column : Nat) (p : Cursor) : List Char × Cursor :=
  let p := p.indentTo column
  match fuel, p.rest with
  | fuel + 1, c :: _ =>
      if isBreak c then
        let (breaks, p) := blockBreaks fuel column p.next
        (keptBreak c :: breaks, p)
      else ([], p)
  | _, _ => ([], p)

/-- The line ends before the first line that is not empty, and the greatest column that their spaces
or its own lead to. -/
def blockLead (fuel deepest : Nat) (p : Cursor) : List Char × Nat × Cursor :=
  match fuel, p.rest with
  | fuel + 1, c :: _ =>
      if c = ' ' then blockLead fuel (max deepest p.next.column) p.next
      else if isBreak c then
        let (breaks, deepest, p) := blockLead fuel deepest p.next
        (keptBreak c :: breaks, deepest, p)
      else ([], deepest, p)
  | _, _ => ([], deepest, p)

/-- The text of a block, the line end after its last line, and the line ends after that one. -/
structure BlockText where
  text : List Char
  lastBreak : List Char
  breaks : List Char
  behind : Cursor

/-- What a line end between two lines becomes. Only a line feed is folded, and only between lines
that both start without a blank; it is a space if no empty line follows. -/
def blockJoint (folded blankBefore blankAfter : Bool) (lineBreak breaks : List Char) : List Char :=
  if folded && lineBreak = ['\n'] && !blankBefore && !blankAfter then
    if breaks.isEmpty then [' '] else []
  else lineBreak

/-- Whether a line of a block that is indented to a column starts here. -/
def Cursor.atBlockLine (p : Cursor) (column : Nat) : Bool := p.column = column && !p.rest.isEmpty

/-- The lines of a block from one that starts here, behind some empty lines. -/
def blockLines (fuel : Nat) (folded : Bool) (column : Nat) (breaks : List Char) (p : Cursor) :
    BlockText :=
  match fuel with
  | 0 => { text := [], lastBreak := [], breaks, behind := p }
  | fuel + 1 =>
      if !p.atBlockLine column then { text := [], lastBreak := [], breaks, behind := p }
      else
        let line := p.rest.takeWhile fun c => !isBreak c
        let atEnd := p.drop line.length
        let lineBreak := (atEnd.rest.head?.map keptBreak).toList
        let (more, next) := blockBreaks atEnd.rest.length column atEnd.next
        let lines := breaks ++ line
        if !next.atBlockLine column then
          { text := lines, lastBreak := lineBreak, breaks := more, behind := next }
        else
          let joint := blockJoint folded (p.rest.head?.any isSpace) (next.rest.head?.any isSpace)
            lineBreak more
          let others := blockLines fuel folded column more next
          { others with text := lines ++ joint ++ others.text }

/-- A block from its bar or angle on, inside what is indented to `indent`. Its lines are at least one
column deeper than that, and as deep as the first of them unless its header says how deep. -/
def readBlockText (folded : Bool) (indent : Int) (p : Cursor) :
    Except Fault (List Char × Cursor) := do
  let (header, start) ← readBlockHeader p.next
  let least := max 1 (indent + 1).toNat
  let size := start.rest.length + 1
  let (column, breaks, first) : Nat × List Char × Cursor :=
    match header.indent with
    | some depth =>
        let column := least + depth - 1
        (column, blockBreaks size column start)
    | none =>
        let (breaks, deepest, first) := blockLead size 0 start
        (max least deepest, breaks, first)
  let block := blockLines size folded column breaks first
  let tail :=
    match header.chomping with
    | .strip => []
    | .clip => block.lastBreak
    | .keep => block.lastBreak ++ block.breaks
  return (block.text ++ tail, block.behind)

end SignalGraph.Yaml
