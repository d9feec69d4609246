import SignalGraph.Decimal.Binary
import SignalGraph.Text.Digit
import SignalGraph.Text.Quoted

/-!
Numbers read from text. Blanks around a number do not count, an underscore may stand between two
digits, and the digits of every script are digits.
-/

namespace SignalGraph.Decimal

def isDigit (c : Char) : Bool := '0' ≤ c && c ≤ '9'

/-- The text of a number with ASCII digits for those of other scripts and without the blanks around
it. -/
def normalizeNumeral (s : String) : List Char :=
  (Text.strip Text.isNumeralBlank s.toList).map fun c =>
    match Text.digitValue? c with
    | some d => Nat.digitChar d
    | none => c

/-- A sign, if there is one, and what follows it. -/
def takeSign : List Char → Bool × List Char
  | '+' :: cs => (false, cs)
  | '-' :: cs => (true, cs)
  | cs => (false, cs)

def digitValues (cs : List Char) : List Nat := cs.map fun c => c.toNat - '0'.toNat

/-- Text without its underscores, each of which must stand between two digits. `before` is the
character in front. -/
def dropUnderscores (digit : Char → Bool) (before : Option Char) : List Char → Option (List Char)
  | [] => some []
  | '_' :: cs =>
      if before.any digit && cs.head?.any digit then dropUnderscores digit (some '_') cs else none
  | c :: cs => (c :: ·) <$> dropUnderscores digit (some c) cs

/-- The double nearest to `digits * 10 ^ exponent`. Magnitudes far outside the range of doubles are
settled by the number of digits alone. -/
def ofDecimal (negative : Bool) (digits : Nat) (exponent : Int) : Float :=
  let width : Int := (Text.digitsOfNat digits).length
  if digits = 0 then zero negative
  else if 400 < exponent + width then infinity negative
  else if exponent + width < -400 then zero negative
  else
    match exponent with
    | .ofNat e => nearestDouble negative (digits * Nat.pow 10 e) 1
    | .negSucc e => nearestDouble negative digits (Nat.pow 10 (e + 1))

/-- The exponent at the end of a number: a letter `e`, a sign and digits, or nothing at all. -/
def readExponent? : List Char → Option Int
  | [] => some 0
  | c :: cs =>
      let (negative, digits) := takeSign cs
      if (c = 'e' || c = 'E') && !digits.isEmpty && digits.all isDigit then
        let magnitude : Int := (Text.natOfDigits (digitValues digits) : Nat)
        some (if negative then -magnitude else magnitude)
      else none

/-- An unsigned decimal number: digits with a point among or around them, then an exponent. -/
def readMagnitude? (negative : Bool) (cs : List Char) : Option Float :=
  let whole := cs.takeWhile isDigit
  let rest := cs.dropWhile isDigit
  let (fraction, rest) :=
    match rest with
    | '.' :: rest => (rest.takeWhile isDigit, rest.dropWhile isDigit)
    | rest => ([], rest)
  if whole.isEmpty && fraction.isEmpty then none
  else
    (readExponent? rest).map fun exponent =>
      ofDecimal negative (Text.natOfDigits (digitValues (whole ++ fraction)))
        (exponent - fraction.length)

/-- A signed number without blanks and underscores: decimal, infinite, or not a number. -/
def readSigned? (cs : List Char) : Option Float :=
  let (negative, cs) := takeSign cs
  let word := String.ofList (cs.map Char.toLower)
  if word = "inf" || word = "infinity" then some (infinity negative)
  else if word = "nan" then some notANumber
  else readMagnitude? negative cs

/-- The double that a text writes, if it writes one. -/
def readFloat? (s : String) : Option Float :=
  (dropUnderscores isDigit none (normalizeNumeral s)).bind readSigned?

inductive IntFault where
  | malformed (base : Nat) (text : String)
  | tooManyDigits (count : Nat)
deriving Repr, DecidableEq

/-- Decimal integers are read up to this many digits. -/
def intDigitLimit : Nat := 4300

/-- A message shows at most 200 characters of the quoted text. -/
def IntFault.message : IntFault → String
  | .malformed base text =>
      s!"invalid literal for int() with base {base}: " ++
        String.ofList ((Text.quoteList text.toList).take 200)
  | .tooManyDigits count =>
      s!"Exceeds the limit ({intDigitLimit} digits) for integer string conversion: value has " ++
        s!"{count} digits; use sys.set_int_max_str_digits() to increase the limit"

/-- The value of a digit in bases up to sixteen, where letters in any case go on after nine. -/
def digitIn? (base : Nat) (c : Char) : Option Nat :=
  let value? : Option Nat :=
    if isDigit c then some (c.toNat - '0'.toNat)
    else if 'a' ≤ c && c ≤ 'f' then some (c.toNat - 'a'.toNat + 10)
    else if 'A' ≤ c && c ≤ 'F' then some (c.toNat - 'A'.toNat + 10)
    else none
  value?.filter (· < base)

/-- The letter that says after a zero that digits of another base follow. -/
def baseLetter? (base : Nat) : Option Char :=
  match base with
  | 2 => some 'b'
  | 8 => some 'o'
  | 16 => some 'x'
  | _ => none

/-- The digits behind the mark of their base, which may be missing. -/
def dropBaseMark (base : Nat) (cs : List Char) : List Char :=
  match cs with
  | '0' :: letter :: digits =>
      if baseLetter? base = some letter.toLower then
        if digits.head? = some '_' then digits.drop 1 else digits
      else cs
  | cs => cs

/-- The integer that a text writes in a base. A run of too many decimal digits is refused before what
follows it is looked at; the bases that are powers of two have no limit. -/
def readIntIn (base : Nat) (s : String) : Except IntFault Int :=
  let digit (c : Char) : Bool := (digitIn? base c).isSome
  let (negative, cs) := takeSign (normalizeNumeral s)
  let cs := dropBaseMark base cs
  let run := cs.takeWhile fun c => digit c || c = '_'
  match dropUnderscores digit none run with
  | none => .error (.malformed base s)
  | some digits =>
      if base = 10 && intDigitLimit < digits.length then .error (.tooManyDigits digits.length)
      else if digits.isEmpty || run.length < cs.length then .error (.malformed base s)
      else
        let magnitude : Int :=
          ((digits.filterMap (digitIn? base)).foldl (fun n d => base * n + d) 0 : Nat)
        .ok (if negative then -magnitude else magnitude)

/-- The decimal integer that a text writes. -/
def readInt (s : String) : Except IntFault Int := readIntIn 10 s

end SignalGraph.Decimal
