import SignalGraph.Decimal.Numeral

/-!
What can be wrong with a YAML text, from its characters to the data that it describes.
-/

namespace SignalGraph.Yaml

/-- Why digits of the right form are no moment. -/
inductive MomentFault where
  | year (n : Nat)
  | month
  | day
  | hour
  | minute
  | second
  /-- A place whose time is a whole day or more from the common time. -/
  | zone (minutes : Int)
deriving Repr, DecidableEq

/-- A span of time as days, which may be below zero, and seconds of a day. -/
def spanText (minutes : Int) : String :=
  let days := Text.ofInt (minutes.fdiv 1440)
  let seconds := 60 * minutes.fmod 1440
  if seconds = 0 then s!"datetime.timedelta(days={days})"
  else s!"datetime.timedelta(days={days}, seconds={Text.ofInt seconds})"

def MomentFault.message : MomentFault → String
  | .year n => s!"year {n} is out of range"
  | .month => "month must be in 1..12"
  | .day => "day is out of range for month"
  | .hour => "hour must be in 0..23"
  | .minute => "minute must be in 0..59"
  | .second => "second must be in 0..59"
  | .zone minutes =>
      "offset must be a timedelta strictly between -timedelta(hours=24) and " ++
        s!"timedelta(hours=24), not {spanText minutes}."

/-- Why a text is no scalar of the kind that it should be. -/
inductive ScalarFault where
  | int (fault : Decimal.IntFault)
  | float (text : String)
  | moment (fault : MomentFault)
  /-- A code point beyond all characters. -/
  | code (n : Nat)
  | noDigits
  | tooLarge
  | notTruth (text : String)
  | notMoment
deriving Repr, DecidableEq

/-- Code points are read as integers of 32 bits with a sign. -/
def codeLimit : Nat := Nat.pow 2 31

def ScalarFault.message : ScalarFault → String
  | .int fault => fault.message
  | .float text => "could not convert string to float: " ++ Text.quoted text
  | .moment fault => fault.message
  | .code n =>
      if n < codeLimit then "chr() arg not in range(0x110000)"
      else "Python int too large to convert to C int"
  | .noDigits => "string index out of range"
  | .tooLarge => "int too large to convert to float"
  | .notTruth text => Text.quoted text
  | .notMoment => "'NoneType' object has no attribute 'groupdict'"

/-- Whether the form of a scalar is right and only its value is not. -/
def ScalarFault.concernsValue : ScalarFault → Bool
  | .int _ => true
  | .float _ => true
  | .moment _ => true
  | .code n => n < codeLimit
  | _ => false

inductive Fault where
  | unprintable (c : Char)
  /-- Characters that make no token, or none at their place. -/
  | malformedToken
  /-- A token that cannot follow those before it. -/
  | misplacedToken
  | secondDocument
  | unknownAlias (name : String)
  | repeatedAnchor (name : String)
  | unknownTag (name : String)
  /-- A node that is no scalar, list or mapping although its tag says so. -/
  | wrongContent
  /-- A list or a mapping as a key. -/
  | containerKey
  /-- What is merged into a mapping and is neither a mapping nor a list of mappings. -/
  | notMergeable
  | malformedBinary
  | scalar (fault : ScalarFault)
deriving Repr, DecidableEq

/-- Only faults of scalars have a message. -/
def Fault.message : Fault → Option String
  | .scalar fault => some fault.message
  | _ => none

end SignalGraph.Yaml
