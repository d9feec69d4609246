import SignalGraph.Value.Yaml.Cursor

/-!
Scalars without quotes. One goes on over spaces and line ends as long as the next line stands deep
enough, up to a colon before a gap, or a comment; inside brackets, also up to a comma or a bracket.
-/

namespace SignalGraph.Yaml

def isFlowMark (c : Char) : Bool :=
  c = ',' || c = '[' || c = ']' || c = '\x7b' || c = '\x7d'

/-- The length of the run without blanks at the start of a text that belongs to a plain scalar. -/
def plainRun (flow : Bool) : List Char → Nat
  | [] => 0
  | c :: cs =>
      if isSpace c || isBreak c then 0
      else if c = ':' && (atGap cs || (flow && cs.head?.any isFlowMark)) then 0
      else if flow && (isFlowMark c || c = '?') then 0
      else plainRun flow cs + 1

/-- Behind line ends and the spaces among them, with the line ends; nothing where a document's mark
follows a line end. -/
def plainBreaks (fuel : Nat) (p : Cursor) : List Char × Cursor :=
  match fuel, p.rest with
  | fuel + 1, c :: _ =>
      if c = ' ' then plainBreaks fuel p.next
      else if !isBreak c then ([], p)
      else if p.next.atMark then ([], p.next)
      else
        let (breaks, p) := plainBreaks fuel p.next
        (keptBreak c :: breaks, p)
  | _, _ => ([], p)

/-- What spaces and line ends after a run of a plain scalar stand for, should it go on. -/
def plainGap (p : Cursor) : List Char × Cursor :=
  let spaces := p.rest.takeWhile (· = ' ')
  let p := p.drop spaces.length
  if p.rest.head?.any isBreak then
    let (breaks, p) := plainBreaks p.rest.length p
    (if p.atMark then [] else foldBreaks breaks, p)
  else (spaces, p)

/-- A plain scalar, and the place behind the spaces and line ends after it. -/
structure PlainText where
  text : List Char
  endsLine : Bool
  behind : Cursor

/-- The plain scalar that starts here. Lines that go on with it start at column `least` or further
right; inside brackets, anywhere. -/
def readPlain (flow : Bool) (least : Int) (fuel : Nat) (p : Cursor) : PlainText :=
  match fuel with
  | 0 => { text := [], endsLine := false, behind := p }
  | fuel + 1 =>
      let count := plainRun flow p.rest
      let run := p.rest.take count
      let runEnd := p.drop count
      let (gap, next) := plainGap runEnd
      let goesOn := !gap.isEmpty && next.rest.head? ≠ some '#' &&
        0 < plainRun flow next.rest && (flow || least ≤ next.column)
      if goesOn then
        let others := readPlain flow least fuel next
        { others with text := run ++ gap ++ others.text }
      else { text := run, endsLine := runEnd.line < next.line, behind := next }

/-- Characters that mean something of their own at the start of a token. -/
def indicators : List Char :=
  ['-', '?', ':', ',', '[', ']', '\x7b', '\x7d', '#', '&', '*', '!', '|', '>', '\'', '"', '%', '@',
    Char.ofNat 0x60]

/-- Whether a plain scalar starts here. Three of the indicators may start one, unless a gap follows;
inside brackets, only the hyphen. -/
def startsPlain (flow : Bool) : List Char → Bool
  | [] => false
  | c :: cs =>
      if isSpace c || isBreak c then false
      else if c = '-' then !atGap cs
      else if c = '?' || c = ':' then !flow && !atGap cs
      else c ∉ indicators

end SignalGraph.Yaml
