/-!
Binary floating point in exact arithmetic. A format gives the width of the mantissa and the range
of exponents; `BinaryFormat.nearest` rounds a positive quotient of integers to the format, ties to
the even mantissa. `Parts` is a double taken apart, and everything that the library computes from
the digits of a double (its shortest text, its integer part, its single-precision value) starts
from there.
-/

namespace SignalGraph.Decimal

/-- Numbers `m * 2 ^ e` with `m < 2 ^ precision` and `least ≤ e ≤ greatest`. -/
structure BinaryFormat where
  precision : Nat
  least : Int
  greatest : Int

def BinaryFormat.double : BinaryFormat := { precision := 53, least := -1074, greatest := 971 }

def BinaryFormat.single : BinaryFormat := { precision := 24, least := -149, greatest := 104 }

/-- The quotient of two numbers rounded to the nearest integer, ties to the even one. -/
def roundQuotient (num den : Nat) : Nat :=
  let quotient := num / den
  let twice := 2 * (num % den)
  if twice < den then quotient
  else if den < twice then quotient + 1
  else quotient + quotient % 2

/-- The quotient `num / den` as a fraction in units of `base ^ exponent`. -/
def scaled (base num den : Nat) (exponent : Int) : Nat × Nat :=
  match exponent with
  | .ofNat e => (num, den * Nat.pow base e)
  | .negSucc e => (num * Nat.pow base (e + 1), den)

/-- The exponent of the highest power of two that is at most the positive quotient `num / den`. -/
def binaryOrder (num den : Nat) : Int :=
  let estimate : Int := (num.log2 : Int) - (den.log2 : Int)
  let (n, d) := scaled 2 num den estimate
  if d ≤ n then estimate else estimate - 1

/-- The mantissa and exponent nearest to the positive quotient `num / den`; nothing when it lies
beyond the greatest number of the format. -/
def BinaryFormat.nearest (format : BinaryFormat) (num den : Nat) : Option (Nat × Int) :=
  let exponent := max format.least (binaryOrder num den - format.precision + 1)
  let (n, d) := scaled 2 num den exponent
  let mantissa := roundQuotient n d
  let (mantissa, exponent) :=
    if mantissa = Nat.pow 2 format.precision then (mantissa / 2, exponent + 1)
    else (mantissa, exponent)
  if format.greatest < exponent then none else some (mantissa, exponent)

/-- A double taken apart. -/
inductive Parts where
  | notANumber
  | infinite (negative : Bool)
  | finite (negative : Bool) (mantissa : Nat) (exponent : Int)
deriving Repr, DecidableEq

/-- A finite double is its mantissa times two to its exponent, which is that of its last bit. -/
def Parts.ofFloat (x : Float) : Parts :=
  let bits := x.toBits.toNat
  let negative : Bool := Nat.pow 2 63 ≤ bits
  let field : Nat := bits / Nat.pow 2 52 % Nat.pow 2 11
  let fraction := bits % Nat.pow 2 52
  if field = Nat.pow 2 11 - 1 then if fraction = 0 then .infinite negative else .notANumber
  else if field = 0 then .finite negative fraction (-1074)
  else .finite negative (fraction + Nat.pow 2 52) ((field : Int) - 1075)

/-- The bits of a double from its sign, mantissa and exponent, which must be those of a double. -/
def composeBits (negative : Bool) (mantissa : Nat) (exponent : Int) : Nat :=
  (if negative then Nat.pow 2 63 else 0) +
    if mantissa < Nat.pow 2 52 then mantissa
    else (exponent + 1075).toNat * Nat.pow 2 52 + (mantissa - Nat.pow 2 52)

def infinity (negative : Bool) : Float :=
  .ofBits (.ofNat ((if negative then Nat.pow 2 63 else 0) + (Nat.pow 2 11 - 1) * Nat.pow 2 52))

def notANumber : Float := .ofBits (.ofNat ((Nat.pow 2 12 - 1) * Nat.pow 2 51))

def zero (negative : Bool) : Float := .ofBits (.ofNat (if negative then Nat.pow 2 63 else 0))

/-- The double nearest to a signed quotient, or nothing beyond the greatest double. -/
def nearestDouble? (negative : Bool) (num den : Nat) : Option Float :=
  if num = 0 then some (zero negative)
  else (BinaryFormat.double.nearest num den).map fun (mantissa, exponent) =>
    .ofBits (.ofNat (composeBits negative mantissa exponent))

/-- The double nearest to a signed quotient; beyond the greatest double it is infinite. -/
def nearestDouble (negative : Bool) (num den : Nat) : Float :=
  (nearestDouble? negative num den).getD (infinity negative)

/-- The double nearest to an integer, or nothing beyond the greatest double. -/
def ofInt? (n : Int) : Option Float := nearestDouble? (n < 0) n.natAbs 1

/-- The value of `m * 2 ^ e` as a fraction. -/
def dyadic (mantissa : Nat) : Int → Nat × Nat
  | .ofNat e => (mantissa * Nat.pow 2 e, 1)
  | .negSucc e => (mantissa, Nat.pow 2 (e + 1))

/-- The single-precision number nearest to a double, as a double. -/
def toSingle (x : Float) : Float :=
  match Parts.ofFloat x with
  | .notANumber => notANumber
  | .infinite negative => infinity negative
  | .finite negative mantissa exponent =>
      if mantissa = 0 then zero negative
      else
        let (num, den) := dyadic mantissa exponent
        match BinaryFormat.single.nearest num den with
        | none => infinity negative
        | some (mantissa, exponent) =>
            let (num, den) := dyadic mantissa exponent
            nearestDouble negative num den

/-- The integer that is left when the fraction of a finite double is cut off. -/
def truncate? (x : Float) : Option Int :=
  match Parts.ofFloat x with
  | .finite negative mantissa exponent =>
      let (num, den) := dyadic mantissa exponent
      let whole : Int := (num / den : Nat)
      some (if negative then -whole else whole)
  | _ => none

def isWhole (x : Float) : Bool :=
  match Parts.ofFloat x with
  | .finite _ mantissa exponent => let (num, den) := dyadic mantissa exponent; num % den = 0
  | _ => false

end SignalGraph.Decimal
