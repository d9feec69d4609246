import SignalGraph.Decimal.Shortest
import SignalGraph.Text.Digit

/-!
The text of a double. `plain` has the fewest digits that read back, positional from 10^-4 up to
10^16 and always with a fraction there; `general` has at most six significant digits and no
trailing zeros.
-/

namespace SignalGraph.Decimal

/-- Which decimal exponents are written positionally, and whether a whole number keeps `.0`. -/
structure Style where
  leastPositional : Int
  firstScientific : Int
  keepsFraction : Bool

/-- Positional from 10^-4 up to 10^16, a whole number with `.0`. -/
def Style.plain : Style :=
  { leastPositional := -4, firstScientific := 16, keepsFraction := true }

/-- Positional from 10^-4 up to 10^6, a whole number without a point. -/
def Style.general : Style :=
  { leastPositional := -4, firstScientific := 6, keepsFraction := false }

/-- An exponent has a sign and at least two digits. -/
def exponentText (order : Int) : List Char :=
  let digits := Text.digitsOfNat order.natAbs
  'e' :: (if order < 0 then '-' else '+') :: List.replicate (2 - digits.length) '0' ++ digits

/-- The text of `0.d1d2d3… * 10 ^ (order + 1)`, for digits `d1`, `d2`, `d3`, … of which the first
is not zero. -/
def Style.render (style : Style) (digits : List Char) (order : Int) : List Char :=
  let withFraction (whole fraction : List Char) : List Char :=
    if fraction.isEmpty then if style.keepsFraction then whole ++ ['.', '0'] else whole
    else whole ++ '.' :: fraction
  if order < style.leastPositional || style.firstScientific ≤ order then
    let fraction := digits.drop 1
    digits.take 1 ++ (if fraction.isEmpty then [] else '.' :: fraction) ++ exponentText order
  else if order < 0 then withFraction ['0'] (List.replicate (order.natAbs - 1) '0' ++ digits)
  else
    let whole := digits.take (order.toNat + 1)
    withFraction (whole ++ List.replicate (order.toNat + 1 - whole.length) '0')
      (digits.drop (order.toNat + 1))

/-- The text of a double whose digits `choose` picks from its mantissa and exponent. -/
def Style.format (style : Style) (choose : Nat → Int → Decimal) (x : Float) : String :=
  match Parts.ofFloat x with
  | .notANumber => "nan"
  | .infinite negative => if negative then "-inf" else "inf"
  | .finite negative mantissa exponent =>
      let magnitude :=
        if mantissa = 0 then if style.keepsFraction then ['0', '.', '0'] else ['0']
        else
          let decimal := choose mantissa exponent
          let digits := Text.digitsOfNat decimal.digits
          style.render digits (decimal.exponent + digits.length - 1)
      String.ofList (if negative then '-' :: magnitude else magnitude)

/-- A decimal without the zeros at the end of its digits. `count` bounds how many are removed. -/
def trim (decimal : Decimal) : Nat → Decimal
  | 0 => decimal
  | count + 1 =>
      if decimal.digits % 10 = 0 && decimal.digits ≠ 0 then
        trim { digits := decimal.digits / 10, exponent := decimal.exponent + 1 } count
      else decimal

/-- Tries grids from coarse to fine until the whole part has `width` digits, and rounds there. -/
def significantFrom (width num den : Nat) (exponent : Int) : Nat → Decimal
  | 0 => { digits := 0, exponent }
  | count + 1 =>
      let (n, d) := scaled 10 num den exponent
      if Nat.pow 10 (width - 1) ≤ n / d then { digits := roundQuotient n d, exponent }
      else significantFrom width num den (exponent - 1) count

/-- The nearest decimal with `width` significant digits, ties to the even digit. -/
def significant (width mantissa : Nat) (exponent : Int) : Decimal :=
  let (num, den) := dyadic mantissa exponent
  let top := decimalBound (exponent + mantissa.log2 + 1)
  (significantFrom width num den (top - width + 1) (width + 8)).trim width

/-- The shortest text of a double that reads back. -/
def plain (x : Float) : String := Style.plain.format shortest x

/-- The text of a double with at most six significant digits. -/
def general (x : Float) : String := Style.general.format (significant 6) x

end SignalGraph.Decimal
