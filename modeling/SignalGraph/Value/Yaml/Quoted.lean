import SignalGraph.Value.Json.Reader
import SignalGraph.Value.Yaml.Cursor
import SignalGraph.Value.Yaml.Fault

/-!
Quoted YAML texts, which may go over several lines. Blanks around a line end do not count.
-/

namespace SignalGraph.Yaml

/-- The line ends from here on, with the blanks after each of them left out. A document's mark cannot
follow inside a text. -/
def quotedBreaks (fuel : Nat) (p : Cursor) : Except Fault (List Char × Cursor) :=
  match fuel, p.rest with
  | fuel + 1, c :: _ =>
      if !isBreak c then .ok ([], p)
      else if p.next.atMark then .error .malformedToken
      else
        (quotedBreaks fuel (p.next.dropAll isSpace)).map fun (breaks, p) =>
          (keptBreak c :: breaks, p)
  | _, _ => .ok ([], p)

/-- What blanks and line ends inside a quoted text stand for. -/
def quotedGap (p : Cursor) : Except Fault (List Char × Cursor) :=
  let spaces := p.rest.takeWhile isSpace
  let p := p.drop spaces.length
  if p.rest.head?.any isBreak then
    (quotedBreaks p.rest.length p).map fun (breaks, p) => (foldBreaks breaks, p)
  else .ok (spaces, p)

def escapeChars : List (Char × Nat) := [
  ('0', 0x00), ('a', 0x07), ('b', 0x08), ('t', 0x09), ('\t', 0x09), ('n', 0x0a), ('v', 0x0b),
  ('f', 0x0c), ('r', 0x0d), ('e', 0x1b), (' ', 0x20), ('"', 0x22), ('\\', 0x5c), ('/', 0x2f),
  ('N', 0x85), ('_', 0xa0), ('L', 0x2028), ('P', 0x2029)]

/-- The number of hexadecimal digits after an escape's letter. -/
def escapeWidths : List (Char × Nat) := [('x', 2), ('u', 4), ('U', 8)]

/-- The character of a code point. Half a surrogate pair is replaced by U+FFFD. -/
def charOfCode (code : Nat) : Except Fault Char :=
  if code.isValidChar then .ok (Char.ofNat code)
  else if code < 0x110000 then .ok (Char.ofNat 0xfffd)
  else .error (.scalar (.code code))

/-- What an escape stands for, from behind its backslash. An escaped line end stands for nothing. -/
def readEscape (p : Cursor) : Except Fault (List Char × Cursor) :=
  match p.rest with
  | [] => .error .malformedToken
  | c :: cs =>
      match escapeChars.lookup c, escapeWidths.lookup c with
      | some code, _ => .ok ([Char.ofNat code], p.next)
      | none, some width =>
          let values := (cs.take width).filterMap Json.hexValue?
          if values.length < width then .error .malformedToken
          else
            (charOfCode (values.foldl (fun n d => 16 * n + d) 0)).map fun escaped =>
              ([escaped], p.next.drop width)
      | none, none =>
          if isBreak c then
            (quotedBreaks p.rest.length p).map fun (breaks, p) => (breaks.drop 1, p)
          else .error .malformedToken

/-- The rest of a text between single quotes, in which two of them stand for one. -/
def readSingleQuoted (fuel : Nat) (p : Cursor) : Except Fault (List Char × Cursor) :=
  match fuel, p.rest with
  | fuel + 1, c :: cs =>
      if c = '\'' then
        if cs.head? = some '\'' then
          (readSingleQuoted fuel p.next.next).map fun (s, p) => ('\'' :: s, p)
        else .ok ([], p.next)
      else if isSpace c || isBreak c then do
        let (gap, p) ← quotedGap p
        let (s, p) ← readSingleQuoted fuel p
        return (gap ++ s, p)
      else (readSingleQuoted fuel p.next).map fun (s, p) => (c :: s, p)
  | _, _ => .error .malformedToken

/-- The rest of a text between double quotes, in which a backslash starts an escape. -/
def readDoubleQuoted (fuel : Nat) (p : Cursor) : Except Fault (List Char × Cursor) :=
  match fuel, p.rest with
  | fuel + 1, c :: _ =>
      if c = '"' then .ok ([], p.next)
      else if c = '\\' then do
        let (escaped, p) ← readEscape p.next
        let (s, p) ← readDoubleQuoted fuel p
        return (escaped ++ s, p)
      else if isSpace c || isBreak c then do
        let (gap, p) ← quotedGap p
        let (s, p) ← readDoubleQuoted fuel p
        return (gap ++ s, p)
      else (readDoubleQuoted fuel p.next).map fun (s, p) => (c :: s, p)
  | _, _ => .error .malformedToken

/-- A quoted text from its opening quote on, which closes it too. -/
def readQuoted (quote : Char) (p : Cursor) : Except Fault (List Char × Cursor) :=
  if quote = '\'' then readSingleQuoted p.rest.length p.next
  else readDoubleQuoted p.rest.length p.next

end SignalGraph.Yaml
