import SignalGraph.Form.Issue
import SignalGraph.Value.Number

/-!
Checks of loosely typed data. A check turns a value into what it should stand for, or reports its
issues; checks of several parts report the issues of all of them.
-/

namespace SignalGraph.Form

abbrev Checked (α : Type) := Except (List Issue) α

def issue {α : Type} (problem : Problem) : Checked α := .error [{ path := [], problem }]

/-- Issues of a part as issues of the whole. -/
def Checked.within {α : Type} (step : Step) (checked : Checked α) : Checked α :=
  checked.mapError fun issues => issues.map fun found => { found with path := step :: found.path }

/-- A function and its argument, both checked. -/
def Checked.apply {α β : Type} (f : Checked (α → β)) (a : Checked α) : Checked β :=
  match f, a with
  | .ok f, .ok a => .ok (f a)
  | .ok _, .error issues => .error issues
  | .error issues, .ok _ => .error issues
  | .error first, .error second => .error (first ++ second)

/-- Both checks, in this order. -/
def Checked.both {α β : Type} (a : Checked α) (b : Checked β) : Checked (α × β) :=
  Checked.apply (a.map Prod.mk) b

/-- Checks the items of a list, numbered from `first` on. -/
def checkItems {α : Type} (check : Value → Checked α) (first : Nat) :
    List Value → Checked (List α)
  | [] => .ok []
  | v :: vs =>
      Checked.apply (((check v).within (.index first)).map List.cons)
        (checkItems check (first + 1) vs)

def listOf {α : Type} (check : Value → Checked α) : Value → Checked (List α)
  | .list items => checkItems check 0 items
  | _ => issue .notList

def setOf {α : Type} (check : Value → Checked α) : Value → Checked (List α)
  | .list items => checkItems check 0 items
  | _ => issue .notSet

def text : Value → Checked String
  | .text s => .ok s
  | _ => issue .notText

def isPositiveDigit (c : Char) : Bool := '1' ≤ c && c ≤ '9'

/-- What counts of an integer behind the zeros in front of it, the last of which is `zero`:
underscores among them are left out too, and a minus sign may follow them. If nothing follows, or
only a fraction, one zero remains. -/
def dropZeros? (zero : Char) : List Char → Option (List Char)
  | [] => some [zero]
  | c :: cs =>
      if c = '0' || c = '_' then dropZeros? c cs
      else if c = '.' then some (zero :: c :: cs)
      else if isPositiveDigit c || c = '-' then some (c :: cs)
      else none

/-- What counts of an integer that starts with a digit. -/
def significant? : List Char → Option (List Char)
  | [] => none
  | c :: cs =>
      if c = '0' then dropZeros? c cs else if isPositiveDigit c then some (c :: cs) else none

/-- The text of an integer without a fraction of zeros, of which there is at least one. -/
def dropZeroFraction (cs : List Char) : List Char :=
  match cs.dropWhile (· ≠ '.') with
  | '.' :: '0' :: zeros => if zeros.all (· = '0') then cs.takeWhile (· ≠ '.') else cs
  | _ => cs

/-- A text without its underscores, none of which may stand at an end or beside another one. -/
def dropSingleUnderscores (atStart : Bool) : List Char → Option (List Char)
  | [] => some []
  | '_' :: cs =>
      if !atStart && cs.head?.any (· ≠ '_') then dropSingleUnderscores false cs else none
  | c :: cs => (c :: ·) <$> dropSingleUnderscores false cs

/-- An integer as its shortest numeral: a minus sign, and digits of which the first is no zero unless
it is the only one. The sign counts among the digits that are at most as many as can be read. -/
def readNumeral (cs : List Char) : Except Problem Int :=
  let (negative, digits) : Bool × List Char :=
    match cs with
    | '-' :: digits => (true, digits)
    | digits => (false, digits)
  let run := digits.takeWhile Decimal.isDigit
  if !run.head?.any isPositiveDigit then if digits = ['0'] then .ok 0 else .error .malformedInt
  else if Decimal.intDigitLimit < run.length + (cs.length - digits.length) then
    .error .tooLongInt
  else if run.length < digits.length then .error .malformedInt
  else
    let magnitude : Int := (Text.natOfDigits (Decimal.digitValues digits) : Nat)
    .ok (if negative then -magnitude else magnitude)

/-- The integer that a text writes. Blanks around it, a sign, zeros in front, single underscores and
a fraction of zeros do not matter. Only ASCII digits count. -/
def readInt (s : String) : Except Problem Int :=
  let signed? : Option (List Char) :=
    match Text.strip Text.isNumeralBlank s.toList with
    | '+' :: cs => significant? cs
    | '-' :: cs => (significant? cs).map ('-' :: ·)
    | cs => significant? cs
  match (signed?.map dropZeroFraction).bind (dropSingleUnderscores true) with
  | some numeral => readNumeral numeral
  | none => .error .malformedInt

/-- The number that a text writes. Blanks around it do not matter, and neither do single underscores
inside a text without such blanks. Only ASCII digits count. -/
def readFloat? (s : String) : Option Float :=
  let cs := s.toList
  match Decimal.readSigned? (Text.strip Text.isNumeralBlank cs) with
  | some x => some x
  | none => (dropSingleUnderscores true cs).bind Decimal.readSigned?

/-- Whole doubles are integers up to this magnitude, which is itself too large. -/
def wholeLimit : Int := Int.pow 2 63

def int : Value → Checked Int
  | .int n => .ok n
  | .bool b => .ok (if b then 1 else 0)
  | .float x =>
      match Decimal.truncate? x with
      | none => issue .notFinite
      | some n =>
          if !Decimal.isWhole x then issue .fraction
          else if n.natAbs < wholeLimit then .ok n
          else issue .tooLongInt
  | .text s =>
      match readInt s with
      | .ok n => .ok n
      | .error problem => issue problem
  | _ => issue .notInt

def float : Value → Checked Float
  | .float x => .ok x
  | .bool b => .ok (if b then 1.0 else 0.0)
  | .int n => (Decimal.ofInt? n).elim (issue .notFloat) .ok
  | .text s => (readFloat? s).elim (issue .malformedFloat) .ok
  | _ => issue .notFloat

def trueWords : List String := ["1", "t", "true", "y", "yes", "on"]

def falseWords : List String := ["0", "f", "false", "n", "no", "off"]

def boolOfInt (n : Int) : Checked Bool :=
  if n = 0 then .ok false else if n = 1 then .ok true else issue .malformedBool

/-- A number stands for a truth value as far as it is an integer of 64 bits. -/
def bool : Value → Checked Bool
  | .bool b => .ok b
  | .int n => if -wholeLimit ≤ n && n < wholeLimit then boolOfInt n else issue .notBool
  | .float x =>
      match Decimal.isWhole x, Decimal.truncate? x with
      | true, some n => if n.natAbs < wholeLimit then boolOfInt n else issue .notBool
      | _, _ => issue .notBool
  | .text s =>
      let word := String.ofList (s.toList.map Char.toLower)
      if word ∈ trueWords then .ok true
      else if word ∈ falseWords then .ok false
      else issue .malformedBool
  | _ => issue .notBool

def object : Value → Checked Fields
  | .object fields => .ok fields
  | _ => issue .notObject

def atLeast (bound : Int) (n : Int) : Checked Int :=
  if bound ≤ n then .ok n else issue (.below bound)

def atMost (bound : Int) (n : Int) : Checked Int :=
  if n ≤ bound then .ok n else issue (.above bound)

/-- A number that is not negative; what is not a number at all is refused too. -/
def notNegative (x : Float) : Checked Float := if 0.0 ≤ x then .ok x else issue (.below 0)

def positive (x : Float) : Checked Float := if 0.0 < x then .ok x else issue (.notAbove 0)

/-- A field that must be there. -/
def required {α : Type} (name : String) (check : Value → Checked α) (fields : Fields) :
    Checked α :=
  Checked.within (.field name) (((fields.lookup name).map check).getD (issue .missing))

/-- A field that may be left out. -/
def optional {α : Type} (name : String) (check : Value → Checked α) (default : α)
    (fields : Fields) : Checked α :=
  Checked.within (.field name) (((fields.lookup name).map check).getD (.ok default))

/-- The issues of fields that a form does not have. -/
def extraIssues (known : List String) (fields : Fields) : List Issue :=
  fields.filterMap fun (name, _) =>
    if name ∈ known then none else some { path := [.field name], problem := .extra }

/-- Adds issues after those of a check. -/
def Checked.and {α : Type} (checked : Checked α) (more : List Issue) : Checked α :=
  match checked with
  | .ok a => if more.isEmpty then .ok a else .error more
  | .error issues => .error (issues ++ more)

/-- An object of a form that has a name and knows its fields. -/
def model {α : Type} (name : String) (known : List String) (check : Fields → Checked α) :
    Value → Checked α
  | .object fields => (check fields).and (extraIssues known fields)
  | _ => issue (.notModel name)

end SignalGraph.Form
