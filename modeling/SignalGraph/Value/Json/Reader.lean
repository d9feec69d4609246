import SignalGraph.Value.Basic
import SignalGraph.Decimal.Numeral

/-!
JSON text as values. A number is an integer unless it has a fraction or an exponent; `NaN`,
`Infinity` and `-Infinity` are numbers too. Of fields with one name the last one counts, in the
place of the first.
-/

namespace SignalGraph.Json

inductive Fault where
  | malformed
  | number (fault : Decimal.IntFault)
deriving Repr, DecidableEq

def isSpace (c : Char) : Bool := c = ' ' || c = '\n' || c = '\r' || c = '\t'

def skipSpace (cs : List Char) : List Char := cs.dropWhile isSpace

def hexValue? (c : Char) : Option Nat :=
  if '0' ≤ c && c ≤ '9' then some (c.toNat - '0'.toNat)
  else if 'a' ≤ c && c ≤ 'f' then some (c.toNat - 'a'.toNat + 10)
  else if 'A' ≤ c && c ≤ 'F' then some (c.toNat - 'A'.toNat + 10)
  else none

/-- The code unit that four hexadecimal digits write. -/
def codeUnit? (a b c d : Char) : Option Nat := do
  return (← hexValue? a) * 4096 + (← hexValue? b) * 256 + (← hexValue? c) * 16 + (← hexValue? d)

def isHighSurrogate (unit : Nat) : Bool := 0xd800 ≤ unit && unit < 0xdc00

def isLowSurrogate (unit : Nat) : Bool := 0xdc00 ≤ unit && unit < 0xe000

/-- The character of a code unit; a surrogate without its other half becomes U+FFFD. -/
def unitChar (unit : Nat) : Char :=
  if isHighSurrogate unit || isLowSurrogate unit then Char.ofNat 0xfffd else Char.ofNat unit

def escapeChar? (c : Char) : Option Char :=
  match c with
  | '"' => some '"'
  | '\\' => some '\\'
  | '/' => some '/'
  | 'b' => some (Char.ofNat 0x08)
  | 'f' => some (Char.ofNat 0x0c)
  | 'n' => some '\n'
  | 'r' => some '\r'
  | 't' => some '\t'
  | _ => none

/-- The characters of a string up to its closing quote, and what follows it. A high surrogate
waits in `pending` for the escape of its low half. -/
def readString (pending : Option Nat) : List Char → Option (List Char × List Char)
  | [] => none
  | '\\' :: 'u' :: a :: b :: c :: d :: cs => do
      let unit ← codeUnit? a b c d
      match pending with
      | some high =>
          if isLowSurrogate unit then
            let code := 0x10000 + (high - 0xd800) * 0x400 + (unit - 0xdc00)
            let (s, rest) ← readString none cs
            return (Char.ofNat code :: s, rest)
          else if isHighSurrogate unit then
            let (s, rest) ← readString (some unit) cs
            return (unitChar high :: s, rest)
          else
            let (s, rest) ← readString none cs
            return (unitChar high :: unitChar unit :: s, rest)
      | none =>
          if isHighSurrogate unit then readString (some unit) cs
          else
            let (s, rest) ← readString none cs
            return (unitChar unit :: s, rest)
  | '\\' :: c :: cs => do
      let escaped ← escapeChar? c
      let (s, rest) ← readString none cs
      return ((pending.map unitChar).toList ++ escaped :: s, rest)
  | '"' :: cs => some ((pending.map unitChar).toList, cs)
  | c :: cs => do
      if c.toNat < 0x20 then none
      else
        let (s, rest) ← readString none cs
        return ((pending.map unitChar).toList ++ c :: s, rest)

/-- Whether a text starts with a digit, after a sign if `signed`. -/
def startsNumber (signed : Bool) : List Char → Bool
  | '-' :: cs => signed && cs.head?.any Decimal.isDigit
  | '+' :: cs => signed && cs.head?.any Decimal.isDigit
  | c :: _ => Decimal.isDigit c
  | [] => false

/-- A number: no zero before other digits, and a digit after the point and after the exponent's
mark, which otherwise do not belong to it. -/
def readNumber (cs : List Char) : Except Fault (Value × List Char) := do
  let (negative, unsigned) :=
    match cs with
    | '-' :: rest => (true, rest)
    | rest => (false, rest)
  let digits :=
    if unsigned.head? = some '0' then ['0'] else unsigned.takeWhile Decimal.isDigit
  if digits.isEmpty then throw .malformed
  let rest := unsigned.drop digits.length
  let (fraction, rest) :=
    match rest with
    | '.' :: more =>
        if startsNumber false more then
          ('.' :: more.takeWhile Decimal.isDigit, more.dropWhile Decimal.isDigit)
        else ([], rest)
    | _ => ([], rest)
  let (exponent, rest) :=
    match rest with
    | mark :: more =>
        if (mark = 'e' || mark = 'E') && startsNumber true more then
          let first := more.take 1
          let others := more.drop 1
          (mark :: first ++ others.takeWhile Decimal.isDigit, others.dropWhile Decimal.isDigit)
        else ([], rest)
    | [] => ([], rest)
  if fraction.isEmpty && exponent.isEmpty then
    let sign := if negative then ['-'] else []
    match Decimal.readInt (String.ofList (sign ++ digits)) with
    | .ok n => return (.int n, rest)
    | .error fault => throw (.number fault)
  else
    match Decimal.readMagnitude? negative (digits ++ fraction ++ exponent) with
    | some x => return (.float x, rest)
    | none => throw .malformed

/-- What follows `word`, if the text starts with it. -/
def dropWord? : List Char → List Char → Option (List Char)
  | [], cs => some cs
  | w :: word, c :: cs => if w = c then dropWord? word cs else none
  | _ :: _, [] => none

/-- The values that have a name. -/
def namedValues : List (String × Value) := [
  ("null", .null), ("true", .bool true), ("false", .bool false),
  ("NaN", .float Decimal.notANumber), ("Infinity", .float (Decimal.infinity false)),
  ("-Infinity", .float (Decimal.infinity true))]

mutual

/-- A value at the start of a text, and what follows it. `fuel` bounds the characters read. -/
def readValue (fuel : Nat) (cs : List Char) : Except Fault (Value × List Char) :=
  match fuel, cs with
  | 0, _ => .error .malformed
  | _, [] => .error .malformed
  | fuel + 1, c :: rest =>
      if c = '"' then
        match readString none rest with
        | some (s, rest) => .ok (.text (String.ofList s), rest)
        | none => .error .malformed
      else if c = '[' then
        match skipSpace rest with
        | ']' :: rest => .ok (.list [], rest)
        | rest => (readItems fuel rest).map fun (items, rest) => (.list items, rest)
      else if c = '\x7b' then
        match skipSpace rest with
        | '\x7d' :: rest => .ok (.object [], rest)
        | rest => (readEntries fuel rest []).map fun (fields, rest) => (.object fields, rest)
      else
        match namedValues.findSome? fun (name, v) =>
            (dropWord? name.toList (c :: rest)).map (v, ·) with
        | some answer => .ok answer
        | none => readNumber (c :: rest)

/-- The items of a list up to its closing bracket. -/
def readItems (fuel : Nat) (cs : List Char) : Except Fault (List Value × List Char) :=
  match fuel with
  | 0 => .error .malformed
  | fuel + 1 => do
      let (v, rest) ← readValue fuel cs
      match skipSpace rest with
      | ',' :: rest =>
          let (vs, rest) ← readItems fuel (skipSpace rest)
          return (v :: vs, rest)
      | ']' :: rest => return ([v], rest)
      | _ => throw .malformed

/-- The fields of an object up to its closing brace, after those read already. -/
def readEntries (fuel : Nat) (cs : List Char) (read : Fields) : Except Fault (Fields × List Char) :=
  match fuel, cs with
  | 0, _ => .error .malformed
  | fuel + 1, '"' :: cs =>
      match readString none cs with
      | none => .error .malformed
      | some (name, rest) =>
          match skipSpace rest with
          | ':' :: rest => do
              let (v, rest) ← readValue fuel (skipSpace rest)
              let read := putEntry (String.ofList name) v read
              match skipSpace rest with
              | ',' :: rest => readEntries fuel (skipSpace rest) read
              | '\x7d' :: rest => return (read, rest)
              | _ => throw .malformed
          | _ => .error .malformed
  | _, _ => .error .malformed

end

/-- The value that a whole text writes. -/
def read (s : String) : Except Fault Value := do
  let cs := skipSpace s.toList
  let (v, rest) ← readValue (cs.length + 1) cs
  if (skipSpace rest).isEmpty then return v else throw .malformed

end SignalGraph.Json
