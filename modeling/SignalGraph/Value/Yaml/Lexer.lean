import SignalGraph.Value.Yaml.Block
import SignalGraph.Value.Yaml.Feed
import SignalGraph.Value.Yaml.Plain
import SignalGraph.Value.Yaml.Quoted
import SignalGraph.Value.Yaml.Token

/-!
How a YAML text falls into tokens. What starts a key is known only when its colon is found, on the
same line and not far away; until then the tokens from there on are held back, and a token that says
that a key starts is put in front of them. A key at a new column starts a mapping, and a hyphen there
a list; what is in a column further left ends them.
-/

namespace SignalGraph.Yaml

/-- A place at which a key may start, and the number of the first token there. A key is required where
nothing else could go on with a mapping. -/
structure KeyStart where
  number : Nat
  required : Bool
  place : Cursor

/-- The state between two tokens. `level` counts brackets that are open, less those that close too
many; `columns` has the columns of open lists and mappings without brackets, the innermost first; no
key has started at a level that is not in `keyStarts`. Of the tokens found so far, `released` many
have been handed on and `held` not. -/
structure Lexer where
  cursor : Cursor
  level : Int := 0
  columns : List Nat := []
  mayStartKey : Bool := true
  keyStarts : List (Int × KeyStart) := []
  released : Nat := 0
  held : List Token := []
  atEnd : Bool := false

/-- A key and the blanks behind it have at most this many characters. -/
def keyLimit : Nat := 1024

namespace Lexer

def inFlow (l : Lexer) : Bool := l.level ≠ 0

/-- The column of the innermost list or mapping without brackets, one less than any if there is none. -/
def indent (l : Lexer) : Int := l.columns.head?.elim (-1) Int.ofNat

def column (l : Lexer) : Nat := l.cursor.column

def hold (l : Lexer) (token : Token) : Lexer := { l with held := l.held ++ [token] }

/-- Behind a token of some characters. -/
def take (l : Lexer) (token : Token) (count : Nat) : Lexer :=
  { l.hold token with cursor := l.cursor.drop count }

/-- Whether a key that may have started at a place could still end here. -/
def reaches (l : Lexer) (start : KeyStart) : Bool :=
  start.place.line = l.cursor.line && l.cursor.offset - start.place.offset ≤ keyLimit

/-- Gives up the places at which no key can have started after all. -/
def dropStale (l : Lexer) : Except Fault Lexer :=
  let (live, stale) := l.keyStarts.partition fun entry => l.reaches entry.2
  if stale.any fun entry => entry.2.required then .error .malformedToken
  else .ok { l with keyStarts := live }

/-- Gives up the place at which a key may have started among the open brackets. -/
def dropKeyStart (l : Lexer) : Except Fault Lexer :=
  if (l.keyStarts.lookup l.level).any KeyStart.required then .error .malformedToken
  else .ok { l with keyStarts := l.keyStarts.filter fun entry => entry.1 ≠ l.level }

/-- Remembers that a key may start here. -/
def markKeyStart (l : Lexer) : Except Fault Lexer := do
  if !l.mayStartKey then return l
  let l ← l.dropKeyStart
  let start : KeyStart :=
    { number := l.released + l.held.length
      required := !l.inFlow && l.indent = l.column
      place := l.cursor }
  return { l with keyStarts := (l.level, start) :: l.keyStarts }

/-- Ends the lists and mappings without brackets whose columns lie further right. -/
def endBlocks (l : Lexer) (column : Int) : Lexer :=
  if l.inFlow then l
  else
    let ended := l.columns.takeWhile fun other : Nat => column < (other : Int)
    { l with
      columns := l.columns.drop ended.length
      held := l.held ++ ended.map fun _ => Token.blockEnd }

/-- Starts a list or a mapping if a column lies further right than those that are open. -/
def startBlock (l : Lexer) (column : Nat) (token : Token) : Lexer :=
  if l.indent < column then { l.hold token with columns := column :: l.columns } else l

/-- Puts tokens in front of the one with a number, which is not handed on yet. -/
def insertAt (l : Lexer) (number : Nat) (tokens : List Token) : Lexer :=
  let count := number - l.released
  { l with held := l.held.take count ++ tokens ++ l.held.drop count }

def finish (l : Lexer) : Except Fault Lexer := do
  let l ← (l.endBlocks (-1)).dropKeyStart
  return { l.hold .textEnd with mayStartKey := false, keyStarts := [], atEnd := true }

def takeDirective (l : Lexer) : Except Fault Lexer := do
  let l ← (l.endBlocks (-1)).dropKeyStart
  let (directive, behind) ← readDirective l.cursor
  return { l.hold (.directive directive) with mayStartKey := false, cursor := behind }

def takeDocumentMark (l : Lexer) (token : Token) : Except Fault Lexer := do
  let l ← (l.endBlocks (-1)).dropKeyStart
  return { l.take token 3 with mayStartKey := false }

def takeOpening (l : Lexer) (token : Token) : Except Fault Lexer := do
  let l ← l.markKeyStart
  return { l.take token 1 with level := l.level + 1, mayStartKey := true }

def takeClosing (l : Lexer) (token : Token) : Except Fault Lexer := do
  let l ← l.dropKeyStart
  return { l.take token 1 with level := l.level - 1, mayStartKey := false }

def takeComma (l : Lexer) : Except Fault Lexer := do
  let l ← l.dropKeyStart
  return { l.take .comma 1 with mayStartKey := true }

def takeItem (l : Lexer) : Except Fault Lexer := do
  if !l.inFlow && !l.mayStartKey then throw .malformedToken
  let l := if l.inFlow then l else l.startBlock l.column .listStart
  let l ← l.dropKeyStart
  return { l.take .item 1 with mayStartKey := true }

/-- Takes the question mark before a key. -/
def takeKey (l : Lexer) : Except Fault Lexer := do
  if !l.inFlow && !l.mayStartKey then throw .malformedToken
  let l := if l.inFlow then l else l.startBlock l.column .mappingStart
  let l ← l.dropKeyStart
  return { l.take .key 1 with mayStartKey := !l.inFlow }

/-- Takes the colon before a value, behind a key if one may have started. -/
def takeValue (l : Lexer) : Except Fault Lexer :=
  match l.keyStarts.lookup l.level with
  | some start =>
      let l := { l with keyStarts := l.keyStarts.filter fun entry => entry.1 ≠ l.level }
      let starts : Bool := !l.inFlow && l.indent < (start.place.column : Int)
      let columns := if starts then start.place.column :: l.columns else l.columns
      let tokens := if starts then [.mappingStart, .key] else [Token.key]
      .ok { (l.insertAt start.number tokens).take .value 1 with columns, mayStartKey := false }
  | none => do
      if !l.inFlow && !l.mayStartKey then throw .malformedToken
      let l := if l.inFlow then l else l.startBlock l.column .mappingStart
      let l ← l.dropKeyStart
      return { l.take .value 1 with mayStartKey := !l.inFlow }

/-- Takes a name, a tag or a quoted text. -/
def takeContent {α : Type} (l : Lexer) (read : Cursor → Except Fault (α × Cursor))
    (token : α → Token) : Except Fault Lexer := do
  let l ← l.markKeyStart
  let (a, behind) ← read l.cursor
  return { l.hold (token a) with mayStartKey := false, cursor := behind }

def takeBlockText (l : Lexer) (folded : Bool) : Except Fault Lexer := do
  let l ← l.dropKeyStart
  let (text, behind) ← readBlockText folded l.indent l.cursor
  return { l.hold (.scalar text false) with mayStartKey := true, cursor := behind }

/-- Takes a plain scalar. If it ends with a line, a key may start on the next one. -/
def takePlain (l : Lexer) : Except Fault Lexer := do
  let l ← l.markKeyStart
  let plain := readPlain l.inFlow (l.indent + 1) l.cursor.rest.length l.cursor
  return { l.hold (.scalar plain.text true) with
    mayStartKey := plain.endsLine, cursor := plain.behind }

/-- Takes the next token of the text. -/
def takeNext (l : Lexer) : Except Fault Lexer :=
  match l.cursor.rest with
  | [] => l.finish
  | c :: cs =>
      if c = '%' && l.column = 0 then l.takeDirective
      else if l.cursor.atDocumentStart then l.takeDocumentMark .documentStart
      else if l.cursor.atDocumentEnd then l.takeDocumentMark .documentEnd
      else if c = '[' then l.takeOpening .openList
      else if c = '\x7b' then l.takeOpening .openMapping
      else if c = ']' then l.takeClosing .closeList
      else if c = '\x7d' then l.takeClosing .closeMapping
      else if c = ',' then l.takeComma
      else if c = '-' && atGap cs then l.takeItem
      else if c = '?' && (l.inFlow || atGap cs) then l.takeKey
      else if c = ':' && (l.inFlow || atGap cs) then l.takeValue
      else if c = '*' then l.takeContent (fun p => readAnchor p.next) .alias
      else if c = '&' then l.takeContent (fun p => readAnchor p.next) .anchor
      else if c = '!' then l.takeContent readTag .tag
      else if c = '|' && !l.inFlow then l.takeBlockText false
      else if c = '>' && !l.inFlow then l.takeBlockText true
      else if c = '\'' || c = '"' then l.takeContent (readQuoted c) (.scalar · false)
      else if startsPlain l.inFlow l.cursor.rest then l.takePlain
      else .error .malformedToken

/-- Finds one more token. -/
def advance (l : Lexer) : Except Fault Lexer := do
  let cursor := l.cursor.skip
  let mayStartKey := l.mayStartKey || (!l.inFlow && l.cursor.line < cursor.line)
  let l ← dropStale { l with cursor, mayStartKey }
  (l.endBlocks l.column).takeNext

/-- Whether a key may have started at the first token that is held. -/
def awaitsKey (l : Lexer) : Bool := l.keyStarts.any fun entry => entry.2.number = l.released

/-- The tokens that are still to be handed on. -/
def tokensFrom (fuel : Nat) (l : Lexer) : Feed Token :=
  match fuel with
  | 0 => .done
  | fuel + 1 =>
      match l.held, l.atEnd with
      | [], true => .done
      | token :: held, true =>
          .item token (tokensFrom fuel { l with held, released := l.released + 1 })
      | [], false =>
          match l.advance with
          | .ok l => tokensFrom fuel l
          | .error fault => .broken fault
      | token :: held, false =>
          match l.dropStale with
          | .error fault => .broken fault
          | .ok l =>
              if l.awaitsKey then
                match l.advance with
                | .ok l => tokensFrom fuel l
                | .error fault => .broken fault
              else .item token (tokensFrom fuel { l with held, released := l.released + 1 })

end Lexer

/-- The tokens of a text. No character makes more than four of them, those that follow from columns
included. -/
def Token.ofText (cs : List Char) : Feed Token :=
  Lexer.tokensFrom (8 * cs.length + 8) { cursor := { rest := cs } }

end SignalGraph.Yaml
