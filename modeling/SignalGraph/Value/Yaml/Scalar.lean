import SignalGraph.Text.Base64
import SignalGraph.Text.Lower
import SignalGraph.Value.Json.Reader
import SignalGraph.Value.Yaml.Moment
import SignalGraph.Value.Yaml.Tag

/-!
Scalars. `Tag.ofPlain` says of what kind a scalar is whose form alone decides: null, a truth value, an
integer in one of five notations, a number with a point, a moment, or else a text. The readers give
what a scalar of a kind stands for; they read more forms than that, as a tag may ask for a kind that
the form does not show.
-/

namespace SignalGraph.Yaml

def nullWords : List String := ["", "~", "null", "Null", "NULL"]

def truthWords : List String := [
  "yes", "Yes", "YES", "no", "No", "NO", "true", "True", "TRUE", "false", "False", "FALSE",
  "on", "On", "ON", "off", "Off", "OFF"]

/-- The parts of a text between colons, in order. -/
def colonParts : List Char → List (List Char)
  | [] => [[]]
  | c :: cs =>
      if c = ':' then [] :: colonParts cs
      else
        match colonParts cs with
        | [] => [[c]]
        | part :: parts => (c :: part) :: parts

/-- A part of a number in base sixty: one digit, or two of which the first is below six. -/
def isSixtieth : List Char → Bool
  | [c] => Decimal.isDigit c
  | [c, d] => '0' ≤ c && c ≤ '5' && Decimal.isDigit d
  | _ => false

def startsPositive (cs : List Char) : Bool := cs.head?.any fun c => '1' ≤ c && c ≤ '9'

def startsDigit (cs : List Char) : Bool := cs.head?.any Decimal.isDigit

def isDigitOrUnderscore (c : Char) : Bool := Decimal.isDigit c || c = '_'

/-- At least one digit of a base or underscore, and nothing else. -/
def areDigits (base : Nat) (cs : List Char) : Bool :=
  !cs.isEmpty && cs.all fun c => c = '_' || (Decimal.digitIn? base c).isSome

/-- An integer without its sign: after `0b`, after `0x`, after another zero in base eight, decimal,
or in base sixty with colons. -/
def isMagnitude (cs : List Char) : Bool :=
  match cs with
  | ['0'] => true
  | '0' :: 'b' :: digits => areDigits 2 digits
  | '0' :: 'x' :: digits => areDigits 16 digits
  | '0' :: digits => areDigits 8 digits
  | cs =>
      startsPositive cs &&
        match colonParts cs with
        | first :: rest => first.all isDigitOrUnderscore && rest.all isSixtieth
        | [] => false

def isInt (cs : List Char) : Bool := isMagnitude (Decimal.takeSign cs).2

/-- An exponent always has a sign here. -/
def isExponent : List Char → Bool
  | [] => true
  | mark :: sign :: digits =>
      (mark = 'e' || mark = 'E') && (sign = '+' || sign = '-') && !digits.isEmpty &&
        digits.all Decimal.isDigit
  | _ => false

/-- Digits around a point, or in base sixty before it. Without a digit in front of the point there is
no sign either. -/
def isPointed (cs : List Char) : Bool :=
  let unsigned := (Decimal.takeSign cs).2
  let whole := unsigned.takeWhile (· ≠ '.')
  match unsigned.dropWhile (· ≠ '.') with
  | '.' :: rest =>
      let fraction := rest.takeWhile isDigitOrUnderscore
      let exponent := rest.dropWhile isDigitOrUnderscore
      match colonParts whole with
      | [] => false
      | [digits] =>
          isExponent exponent &&
            if digits.isEmpty then unsigned.length = cs.length && startsDigit fraction
            else startsDigit digits && digits.all isDigitOrUnderscore
      | digits :: parts =>
          exponent.isEmpty && startsDigit digits && digits.all isDigitOrUnderscore &&
            parts.all isSixtieth
  | _ => false

def infinityWords : List String := [".inf", ".Inf", ".INF"]

def notANumberWords : List String := [".nan", ".NaN", ".NAN"]

def isFloat (cs : List Char) : Bool :=
  String.ofList (Decimal.takeSign cs).2 ∈ infinityWords ||
    String.ofList cs ∈ notANumberWords || isPointed cs

/-- A text without a line feed at its end. -/
def dropLineFeed (cs : List Char) : List Char :=
  if cs.getLast? = some '\n' then cs.dropLast else cs

/-- The tag that three marks alone would have, of which no plain scalar can consist. -/
def markTag : Tag := .other (commonStart ++ "yaml")

/-- The tag of a scalar whose form alone decides. A line feed at its end does not count. -/
def Tag.ofPlain (cs : List Char) : Tag :=
  let form := dropLineFeed cs
  let s := String.ofList form
  if cs = ['\n'] then .text
  else if s ∈ nullWords then .null
  else if s ∈ truthWords then .bool
  else if isInt form then .int
  else if isFloat form then .float
  else if (Moment.read? 2 form).isSome then .moment
  else if s = "<<" then .merge
  else if s = "=" then .value
  else if s ∈ ["!", "&", "*"] then markTag
  else .text

/-- The digits of a number without its sign and underscores; not even a sign is there in an empty one. -/
def unsigned (cs : List Char) : Except ScalarFault (Bool × List Char) :=
  match cs.filter (· ≠ '_') with
  | [] => .error .noDigits
  | c :: cs => .ok (c = '-', if c = '-' || c = '+' then cs else c :: cs)

def readIntIn (base : Nat) (cs : List Char) : Except ScalarFault Int :=
  (Decimal.readIntIn base (.ofList cs)).mapError .int

/-- The number whose parts in base sixty are given, the most significant first. -/
def ofSixtieths (parts : List Int) : Int := parts.foldl (fun n part => 60 * n + part) 0

/-- An integer without its sign. A zero in front says that its base is another one than ten. -/
def readMagnitude (cs : List Char) : Except ScalarFault Int :=
  match cs with
  | [] => .error .noDigits
  | ['0'] => .ok 0
  | '0' :: 'b' :: digits => readIntIn 2 digits
  | '0' :: 'x' :: digits => readIntIn 16 digits
  | '0' :: digits => readIntIn 8 ('0' :: digits)
  | cs =>
      if cs.contains ':' then ofSixtieths <$> (colonParts cs).mapM (readIntIn 10)
      else readIntIn 10 cs

def readInt (cs : List Char) : Except ScalarFault Int := do
  let (negative, cs) ← unsigned cs
  let magnitude ← readMagnitude cs
  return if negative then -magnitude else magnitude

def readDecimal (cs : List Char) : Except ScalarFault Float :=
  let s := String.ofList cs
  (Decimal.readFloat? s).elim (.error (.float s)) .ok

/-- The sum of parts, the least significant first, each of which counts sixty times the one before
it. -/
def sumSixtieths (sum : Float) (weight : Nat) : List Float → Except ScalarFault Float
  | [] => .ok sum
  | part :: parts =>
      match Decimal.ofInt? weight with
      | none => .error .tooLarge
      | some factor => sumSixtieths (sum + part * factor) (60 * weight) parts

def readFloat (cs : List Char) : Except ScalarFault Float := do
  let (negative, cs) ← unsigned cs
  let cs := Text.lower cs
  let magnitude ←
    if cs = ".inf".toList then pure (Decimal.infinity false)
    else if cs = ".nan".toList then pure Decimal.notANumber
    else if cs.contains ':' then do
      let parts ← (colonParts cs).mapM readDecimal
      sumSixtieths 0.0 1 parts.reverse
    else readDecimal cs
  return if negative then -magnitude else magnitude

def readTruth (cs : List Char) : Except ScalarFault Bool :=
  let word := String.ofList (Text.lower cs)
  if word ∈ ["yes", "true", "on"] then .ok true
  else if word ∈ ["no", "false", "off"] then .ok false
  else .error (.notTruth word)

def readMoment (cs : List Char) : Except ScalarFault Moment :=
  match Moment.read? 1 (dropLineFeed cs) with
  | none => .error .notMoment
  | some moment => (moment.check.map fun _ => moment).mapError .moment

/-- Bytes as base64 text, among which any other ASCII characters may stand. -/
def readBinary (cs : List Char) : Except Fault (List UInt8) :=
  if cs.any fun c => 0x7f < c.toNat then .error .malformedBinary
  else (Text.base64Pick? cs).elim (.error .malformedBinary) .ok

end SignalGraph.Yaml
