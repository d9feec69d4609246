import SignalGraph.Decimal.Style
import SignalGraph.Value.Yaml.Plain
import SignalGraph.Value.Yaml.Quoted
import SignalGraph.Value.Yaml.Scalar

/-!
Scalars as YAML text. A text stands without quotes where it reads back as a text, else between single
quotes, or between double quotes where it holds what only escapes can write. Lines that grow too long
go on, indented, on the next line.
-/

namespace SignalGraph.Yaml

/-- The shortest text that reads back; an exponent needs a point in front of it. -/
def float (x : Float) : String :=
  match Decimal.Parts.ofFloat x with
  | .notANumber => ".nan"
  | .infinite negative => if negative then "-.inf" else ".inf"
  | .finite .. =>
      let cs := (Decimal.plain x).toList
      if cs.contains '.' then String.ofList cs
      else String.ofList (cs.flatMap fun c => if c = 'e' then ['.', '0', 'e'] else [c])

/-- The column behind which a line goes on on the next one as soon as it can. -/
def lineWidth : Nat := 80

/-- The start of a line with which another one goes on. -/
def nextLine : List Char := ['\n', ' ', ' ']

def isPrintableAscii (c : Char) : Bool := 0x20 ≤ c.toNat && c.toNat ≤ 0x7e

/-- Whether a text would be cut short without quotes: a colon before a gap, or a comment. -/
def hasMark (spaced : Bool) : List Char → Bool
  | [] => false
  | c :: cs => (c = ':' && atGap cs) || (c = '#' && spaced) || hasMark (isSpace c) cs

/-- Whether a text stands without quotes: its characters allow it, and it reads back as a text. -/
def isPlainText (cs : List Char) : Bool :=
  cs.all isPrintableAscii && startsPlain false cs && !hasMark true cs && cs.getLast? ≠ some ' ' &&
    cs.take 3 ≠ ['-', '-', '-'] && cs.take 3 ≠ ['.', '.', '.'] && Tag.ofPlain cs = .text

/-- Whether a space stands beside a line feed. -/
def hasSpacedBreak : List Char → Bool
  | c :: d :: cs => (c = ' ' && d = '\n') || (c = '\n' && d = ' ') || hasSpacedBreak (d :: cs)
  | _ => false

/-- Whether a text can stand between single quotes. -/
def isSingleText (cs : List Char) : Bool :=
  cs.all (fun c => c = '\n' || isPrintableAscii c) && !hasSpacedBreak cs

/-- Whether two characters are of one class: spaces, line feeds and all others. -/
def areAlike (c d : Char) : Bool := (c = ' ') = (d = ' ') && (c = '\n') = (d = '\n')

/-- The longest runs of characters of one class, in order. -/
def classRuns : List Char → List (List Char)
  | [] => []
  | c :: cs =>
      match classRuns cs with
      | (d :: run) :: others =>
          if areAlike c d then (c :: d :: run) :: others else [c] :: (d :: run) :: others
      | others => [c] :: others

/-- Runs from a column on. A single space inside the text where a line is too long becomes a line end,
and line feeds are doubled as far as they would be folded otherwise. -/
def writeRuns (escape : Char → List Char) (column : Nat) (first : Bool) :
    List (List Char) → List Char
  | [] => []
  | run :: others =>
      if run = [' '] && lineWidth < column && !first && !others.isEmpty then
        nextLine ++ writeRuns escape 2 false others
      else if run.head? = some '\n' then '\n' :: run ++ [' ', ' '] ++ writeRuns escape 2 false others
      else
        let written := run.flatMap escape
        written ++ writeRuns escape (column + written.length) false others

/-- A character between single quotes. -/
def escapeSingle (c : Char) : List Char := if c = '\'' then ['\'', '\''] else [c]

/-- A character between double quotes: the shortest escape if it is not printable ASCII. -/
def escapeDouble (c : Char) : List Char :=
  if isPrintableAscii c && c ≠ '"' && c ≠ '\\' then [c]
  else
    match escapeChars.find? fun (letter, code) => code = c.toNat && letter ≠ '\t' with
    | some (letter, _) => ['\\', letter]
    | none =>
        let digits (width : Nat) := (Text.hexDigits width c.toNat).map Char.toUpper
        if c.toNat < 0x100 then '\\' :: 'x' :: digits 2
        else if c.toNat < 0x10000 then '\\' :: 'u' :: digits 4
        else '\\' :: 'U' :: digits 8

/-- The end of a line between double quotes and the start of the next one, whose first space would
not count without a backslash. -/
def doubleBreak (next : Option Char) : List Char :=
  '\\' :: nextLine ++ if next = some ' ' then ['\\'] else []

/-- Characters between double quotes from a column on. Where a line is too long it goes on on the next
one before a space, behind an escape, or before what follows one; `fresh` says that an escape or the
start of a line has just been written. Nothing of one character goes on alone. -/
def writeDouble (column : Nat) (first fresh : Bool) : List Char → List Char
  | [] => []
  | c :: cs =>
      let written := escapeDouble c
      let mayBreak := !first && !cs.isEmpty
      if written = [c] then
        if mayBreak && (c = ' ' || fresh) && lineWidth < column then
          let lineBreak := doubleBreak (some c)
          lineBreak ++ c :: writeDouble (lineBreak.length - 1) false false cs
        else c :: writeDouble (column + 1) false false cs
      else if mayBreak && lineWidth + 1 < column + written.length then
        let lineBreak := doubleBreak cs.head?
        written ++ lineBreak ++ writeDouble (lineBreak.length - 2) false true cs
      else written ++ writeDouble (column + written.length) false true cs

/-- An entry of a mapping whose value is a text. -/
def textEntry (key value : String) : String :=
  let cs := value.toList
  let column := key.length + 2
  let written :=
    if isPlainText cs then writeRuns (fun c => [c]) column true (classRuns cs)
    else if isSingleText cs then
      '\'' :: writeRuns escapeSingle (column + 1) true (classRuns cs) ++ ['\'']
    else '"' :: writeDouble (column + 1) true true cs ++ ['"']
  s!"{key}: {String.ofList written}\n"

end SignalGraph.Yaml
