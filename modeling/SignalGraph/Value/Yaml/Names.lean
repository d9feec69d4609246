import SignalGraph.Text.Utf8
import SignalGraph.Value.Json.Reader
import SignalGraph.Value.Yaml.Cursor
import SignalGraph.Value.Yaml.Fault

/-!
Names in a YAML text: those of anchors, tags, which say of what kind a node is, and directives, which
stand before a document and may give short names to the starts of tags.
-/

namespace SignalGraph.Yaml

def isAsciiLetter (c : Char) : Bool := ('a' ≤ c && c ≤ 'z') || ('A' ≤ c && c ≤ 'Z')

def isNameChar (c : Char) : Bool :=
  isAsciiLetter c || ('0' ≤ c && c ≤ '9') || c = '-' || c = '_'

/-- Characters of a tag besides those of names. -/
def tagChars : List Char := ";/?:@&=+$,.!~*'()[]%".toList

def isTagChar (c : Char) : Bool := isNameChar c || c ∈ tagChars

/-- Characters that may follow a name at once, besides blanks. -/
def nameEnds : List Char := "?:,]\x7d%@".toList ++ [Char.ofNat 0x60]

/-- The name of an anchor or of an alias, from behind its mark. -/
def readAnchor (p : Cursor) : Except Fault (String × Cursor) :=
  let name := p.rest.takeWhile isNameChar
  let behind := p.drop name.length
  if name.isEmpty || !(atGap behind.rest || behind.rest.head?.any (· ∈ nameEnds)) then
    .error .malformedToken
  else .ok (.ofList name, behind)

/-- The bytes that stand one after the other as percent signs with two hexadecimal digits. -/
def percentBytes : List Char → Except Fault (List UInt8)
  | '%' :: a :: b :: cs =>
      match Json.hexValue? a, Json.hexValue? b with
      | some high, some low => (UInt8.ofNat (16 * high + low) :: ·) <$> percentBytes cs
      | _, _ => .error .malformedToken
  | '%' :: _ => .error .malformedToken
  | _ => .ok []

/-- The characters of a tag, of which escaped ones are written as bytes, and how many were read. -/
def tagRun (fuel : Nat) (cs : List Char) : Except Fault (List Char × Nat) :=
  match fuel, cs with
  | fuel + 1, c :: rest =>
      if c = '%' then do
        let bytes ← percentBytes cs
        let .ok escaped := Text.utf8Decode bytes | throw .malformedToken
        let (run, count) ← tagRun fuel (cs.drop (3 * bytes.length))
        return (escaped ++ run, count + 3 * bytes.length)
      else if isTagChar c then
        (tagRun fuel rest).map fun (run, count) => (c :: run, count + 1)
      else .ok ([], 0)
  | _, _ => .ok ([], 0)

/-- A tag or the start of one, of at least one character. -/
def readTagRun (p : Cursor) : Except Fault (List Char × Cursor) := do
  let (run, count) ← tagRun p.rest.length p.rest
  if count = 0 then throw .malformedToken
  return (run, p.drop count)

/-- A short name for the start of a tag: an exclamation mark, or a name between two of them. -/
def readHandle (p : Cursor) : Except Fault (List Char × Cursor) :=
  match p.rest with
  | '!' :: cs =>
      let name := cs.takeWhile isNameChar
      if cs.head? = some ' ' then .ok (['!'], p.next)
      else if (cs.drop name.length).head? = some '!' then
        .ok ('!' :: name ++ ['!'], p.drop (name.length + 2))
      else .error .malformedToken
  | _ => .error .malformedToken

/-- A tag as it is written: a short name for its start, unless it is written in full, and the rest. -/
structure TagText where
  handle : Option String
  suffix : String
deriving Repr, DecidableEq

/-- A tag from its exclamation mark on. An exclamation mark alone is a tag in full. -/
def readTag (p : Cursor) : Except Fault (TagText × Cursor) := do
  let behindMark := p.next
  let (tag, behind) : TagText × Cursor ←
    if behindMark.rest.head? = some '<' then do
      let (run, behind) ← readTagRun behindMark.next
      if behind.rest.head? ≠ some '>' then throw .malformedToken
      pure ({ handle := none, suffix := .ofList run }, behind.next)
    else if atGap behindMark.rest then pure ({ handle := none, suffix := "!" }, behindMark)
    else do
      let word := behindMark.rest.takeWhile fun c => !(c = ' ' || isBreak c)
      let (handle, start) ← if word.contains '!' then readHandle p else pure (['!'], behindMark)
      let (run, behind) ← readTagRun start
      pure ({ handle := some (.ofList handle), suffix := .ofList run }, behind)
  if atSpace behind.rest then return (tag, behind) else throw .malformedToken

inductive Directive where
  | version (major : Nat)
  | handle (name : String) (start : String)
  | other
deriving Repr, DecidableEq

/-- A number of at least one digit. -/
def readVersionPart (p : Cursor) : Except Fault (Nat × Cursor) :=
  let digits := p.rest.takeWhile Decimal.isDigit
  if digits.isEmpty then .error .malformedToken
  else .ok (Text.natOfDigits (Decimal.digitValues digits), p.drop digits.length)

/-- What a directive gives, from behind its name. -/
def readDirectiveValue (name : List Char) (p : Cursor) : Except Fault (Directive × Cursor) := do
  if name = "YAML".toList then
    let (major, point) ← readVersionPart p.dropSpaces
    if point.rest.head? ≠ some '.' then throw .malformedToken
    let (_, behind) ← readVersionPart point.next
    if atSpace behind.rest then return (.version major, behind) else throw .malformedToken
  else if name = "TAG".toList then
    let (handle, behindHandle) ← readHandle p.dropSpaces
    if behindHandle.rest.head? ≠ some ' ' then throw .malformedToken
    let (start, behind) ← readTagRun behindHandle.dropSpaces
    if atSpace behind.rest then return (.handle (.ofList handle) (.ofList start), behind)
    else throw .malformedToken
  else return (.other, p.dropAll fun c => !isBreak c)

/-- A directive from its percent sign to the start of the next line. -/
def readDirective (p : Cursor) : Except Fault (Directive × Cursor) := do
  let name := p.next.rest.takeWhile isNameChar
  let behindName := p.next.drop name.length
  if name.isEmpty || !atSpace behindName.rest then throw .malformedToken
  let (directive, behind) ← readDirectiveValue name behindName
  let lineEnd := behind.dropComment
  if atLineEnd lineEnd.rest then return (directive, lineEnd.next) else throw .malformedToken

end SignalGraph.Yaml
