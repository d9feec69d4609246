import SignalGraph.Decimal.Binary

/-!
The fewest digits that read back. All reals that round to a double form an interval; on the
coarsest grid of powers of ten with a point in that interval, the point nearest to the double is
its shortest decimal.
-/

namespace SignalGraph

/-- A decimal number `digits * 10 ^ exponent`. -/
structure Decimal where
  digits : Nat
  exponent : Int
deriving Repr, DecidableEq

namespace Decimal

/-- The reals that round to a double, as numerators over one denominator: the lower end, the double
itself and the upper end. Both ends belong to the interval if and only if the mantissa is even. -/
structure Interval where
  low : Nat
  value : Nat
  high : Nat
  den : Nat
  closed : Bool

/-- The interval of `mantissa * 2 ^ exponent`. Below a power of two the next double is only half as
far away as above it. -/
def Interval.ofDouble (mantissa : Nat) (exponent : Int) : Interval :=
  let below := if mantissa = Nat.pow 2 52 && -1074 < exponent then 1 else 2
  let (low, den) := dyadic (4 * mantissa - below) (exponent - 2)
  let (value, _) := dyadic (4 * mantissa) (exponent - 2)
  let (high, _) := dyadic (4 * mantissa + 2) (exponent - 2)
  { low, value, high, den, closed := mantissa % 2 = 0 }

/-- Whether the fraction `num / den` lies in the interval. -/
def Interval.contains (i : Interval) (num den : Nat) : Bool :=
  if i.closed then i.low * den ≤ num * i.den && num * i.den ≤ i.high * den
  else i.low * den < num * i.den && num * i.den < i.high * den

/-- The point nearest to the double on the grid of multiples of `10 ^ exponent`, if the interval
holds one; of two points equally near, the even one. -/
def Interval.gridPoint? (i : Interval) (exponent : Int) : Option Nat :=
  let (n, d) := scaled 10 i.value i.den exponent
  let inside (digits : Nat) : Bool :=
    match exponent with
    | .ofNat e => i.contains (digits * Nat.pow 10 e) 1
    | .negSucc e => i.contains digits (Nat.pow 10 (e + 1))
  let nearest := roundQuotient n d
  let other := if nearest = n / d then nearest + 1 else n / d
  if 0 < nearest && inside nearest then some nearest
  else if 0 < other && inside other then some other
  else none

/-- Tries `count` grids, each ten times as fine as the one before. -/
def Interval.search (i : Interval) (exponent : Int) : Nat → Option Decimal
  | 0 => none
  | count + 1 =>
      match i.gridPoint? exponent with
      | some digits => some { digits, exponent }
      | none => i.search (exponent - 1) count

/-- An upper bound on the decimal exponent of a number below `2 ^ order`. -/
def decimalBound (order : Int) : Int := order * 30103 / 100000 + 2

/-- The shortest decimal of a positive double. Twenty-four grids reach one that is finer than the
interval is wide, so the search never comes back empty. -/
def shortest (mantissa : Nat) (exponent : Int) : Decimal :=
  let top := decimalBound (exponent + mantissa.log2 + 1)
  ((Interval.ofDouble mantissa exponent).search top 24).getD { digits := 0, exponent := 0 }

end Decimal

end SignalGraph
