import SignalGraph.Text.Blank

/-!
Tokens of a script. Text is cut into the longest runs of one class of characters: operators, names,
numbers, and whatever belongs to no class; brackets and separators stand alone, and blanks part
tokens without being part of any. Each token knows the place of its first character.
-/

namespace SignalGraph.Script

/-- A place in a text: how many characters stand before it, and its line and column from 1 on. -/
structure Place where
  offset : Nat
  line : Nat
  column : Nat
deriving Repr, DecidableEq

def Place.first : Place := { offset := 0, line := 1, column := 1 }

/-- The place after a character. Only a line feed starts a line. -/
def Place.after (place : Place) (c : Char) : Place :=
  if c = '\n' then { offset := place.offset + 1, line := place.line + 1, column := 1 }
  else { place with offset := place.offset + 1, column := place.column + 1 }

inductive TokenKind where
  | mark
  | operator
  | name
  | number
  | other
deriving Repr, DecidableEq

def isMark (c : Char) : Bool := c ∈ ['(', ')', '{', '}', ',', ';']

def isOperator (c : Char) : Bool := c ∈ ['=', '+', '-', '*', '/', '>', '<', '&', '|', '^', '!']

def isLetter (c : Char) : Bool := ('a' ≤ c && c ≤ 'z') || ('A' ≤ c && c ≤ 'Z') || c = '_'

def isDigit (c : Char) : Bool := '0' ≤ c && c ≤ '9'

def isNumeral (c : Char) : Bool := isDigit c || c = '.'

/-- The kind of token that a character starts; a blank starts none. -/
def TokenKind.start? (c : Char) : Option TokenKind :=
  if isMark c then some .mark
  else if isOperator c then some .operator
  else if Text.isBlank c then none
  else if isLetter c then some .name
  else if isNumeral c then some .number
  else some .other

/-- Whether a character goes on with a token of a kind. -/
def TokenKind.continues (kind : TokenKind) (c : Char) : Bool :=
  match kind with
  | .mark => false
  | .operator => isOperator c
  | .name => isLetter c || isDigit c
  | .number => isNumeral c
  | .other => TokenKind.start? c = some .other

structure Token where
  text : String
  kind : TokenKind
  place : Place
deriving Repr, DecidableEq

def Token.isName (t : Token) : Bool := t.kind = .name

def Token.push (t : Token) (c : Char) : Token := { t with text := t.text.push c }

def Token.start? (place : Place) (c : Char) : Option Token :=
  (TokenKind.start? c).map fun kind => { text := String.singleton c, kind, place }

/-- The tokens of a text whose first character stands at `place`, given the token that the
characters before it left unfinished. -/
def scanFrom (current : Option Token) (place : Place) : List Char → List Token
  | [] => current.toList
  | c :: cs =>
      match current with
      | none => scanFrom (Token.start? place c) (place.after c) cs
      | some t =>
          if t.kind.continues c then scanFrom (some (t.push c)) (place.after c) cs
          else t :: scanFrom (Token.start? place c) (place.after c) cs

def tokens (source : String) : List Token := scanFrom none .first source.toList

end SignalGraph.Script
