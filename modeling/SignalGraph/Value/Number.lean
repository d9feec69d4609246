import SignalGraph.Value.Display
import SignalGraph.Decimal.Numeral

/-!
Values taken as numbers. A truth value is one or zero, a text is read as a number, and a double
loses its fraction when it is taken as an integer.
-/

namespace SignalGraph

inductive NumberFault where
  | malformedFloat (text : String)
  | malformedInt (fault : Decimal.IntFault)
  | floatOf (typeName : String)
  | intOf (typeName : String)
  | tooLarge
  | infinite
  | undefined
deriving Repr, DecidableEq

def NumberFault.message : NumberFault → String
  | .malformedFloat text => "could not convert string to float: " ++ Text.quoted text
  | .malformedInt fault => fault.message
  | .floatOf typeName =>
      "float() argument must be a string or a real number, not '" ++ typeName ++ "'"
  | .intOf typeName =>
      "int() argument must be a string, a bytes-like object or a real number, not '" ++
        typeName ++ "'"
  | .tooLarge => "int too large to convert to float"
  | .infinite => "cannot convert float infinity to integer"
  | .undefined => "cannot convert float NaN to integer"

/-- The double that a value stands for. An integer beyond all doubles stands for none. -/
def Value.toFloat : Value → Except NumberFault Float
  | .float x => .ok x
  | .bool b => .ok (if b then 1.0 else 0.0)
  | .int n => (Decimal.ofInt? n).elim (.error .tooLarge) .ok
  | .text s => (Decimal.readFloat? s).elim (.error (.malformedFloat s)) .ok
  | v => .error (.floatOf v.typeName)

/-- A double without its fraction. -/
def truncate (x : Float) : Except NumberFault Int :=
  match Decimal.truncate? x with
  | some n => .ok n
  | none => .error (if x.isNaN then .undefined else .infinite)

/-- The integer that a value stands for. -/
def Value.toInt : Value → Except NumberFault Int
  | .int n => .ok n
  | .bool b => .ok (if b then 1 else 0)
  | .float x => truncate x
  | .text s => (Decimal.readInt s).mapError .malformedInt
  | v => .error (.intOf v.typeName)

end SignalGraph
