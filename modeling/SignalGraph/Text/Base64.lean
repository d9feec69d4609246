/-!
Base64 text: four characters for three bytes, padded with `=` to whole groups. `base64Decode` is
strict about characters outside the alphabet and about where padding stands, and lenient about spare
bits and about padding after whole groups; `base64Pick?` passes over all that is no data.
-/

namespace SignalGraph.Text

/-- The character that stands for six bits. -/
def base64Char (n : Nat) : Char :=
  if n < 26 then Char.ofNat ('A'.toNat + n)
  else if n < 52 then Char.ofNat ('a'.toNat + (n - 26))
  else if n < 62 then Char.ofNat ('0'.toNat + (n - 52))
  else if n = 62 then '+'
  else '/'

def base64Value? (c : Char) : Option Nat :=
  if 'A' ≤ c && c ≤ 'Z' then some (c.toNat - 'A'.toNat)
  else if 'a' ≤ c && c ≤ 'z' then some (c.toNat - 'a'.toNat + 26)
  else if '0' ≤ c && c ≤ '9' then some (c.toNat - '0'.toNat + 52)
  else if c = '+' then some 62
  else if c = '/' then some 63
  else none

def base64Encode : List UInt8 → List Char
  | [] => []
  | [a] => [base64Char (a.toNat / 4), base64Char (a.toNat % 4 * 16), '=', '=']
  | [a, b] =>
      [base64Char (a.toNat / 4), base64Char (a.toNat % 4 * 16 + b.toNat / 16),
        base64Char (b.toNat % 16 * 4), '=']
  | a :: b :: c :: rest =>
      base64Char (a.toNat / 4) :: base64Char (a.toNat % 4 * 16 + b.toNat / 16) ::
        base64Char (b.toNat % 16 * 4 + c.toNat / 64) :: base64Char (c.toNat % 64) ::
        base64Encode rest

inductive Base64Fault where
  | leadingPadding
  | foreignCharacter
  | discontinuousPadding
  | excessData
  | spareCharacter (count : Nat)
  | incompletePadding
deriving Repr, DecidableEq

def Base64Fault.message : Base64Fault → String
  | .leadingPadding => "Leading padding not allowed"
  | .foreignCharacter => "Only base64 data is allowed"
  | .discontinuousPadding => "Discontinuous padding not allowed"
  | .excessData => "Excess data after padding"
  | .spareCharacter count =>
      s!"Invalid base64-encoded string: number of data characters ({count}) cannot be 1 more " ++
        "than a multiple of 4"
  | .incompletePadding => "Incorrect padding"

/-- Where reading stands: data characters so far, the bits not yet given out as a byte, and the
padding characters read. -/
structure Base64State where
  count : Nat := 0
  bits : Nat := 0
  pads : Nat := 0

/-- The state after one more data character, and the byte that it completes. -/
def Base64State.push (state : Base64State) (value : Nat) : Base64State × List UInt8 :=
  let next (bits : Nat) : Base64State := { count := state.count + 1, bits, pads := 0 }
  match state.count % 4 with
  | 0 => (next value, [])
  | 1 => (next (value % 16), [UInt8.ofNat (state.bits * 4 + value / 16)])
  | 2 => (next (value % 4), [UInt8.ofNat (state.bits * 16 + value / 4)])
  | _ => (next 0, [UInt8.ofNat (state.bits * 64 + value)])

/-- Reads from a state on. A group that padding completes ends the text. -/
def base64DecodeFrom (state : Base64State) : List Char → Except Base64Fault (List UInt8)
  | [] =>
      if state.count % 4 = 0 then .ok []
      else if state.count % 4 = 1 then .error (.spareCharacter state.count)
      else .error .incompletePadding
  | c :: cs =>
      if c = '=' then
        let pads := state.pads + 1
        if 2 ≤ state.count % 4 && 4 ≤ state.count % 4 + pads then
          if cs.isEmpty then .ok [] else .error .excessData
        else base64DecodeFrom { state with pads } cs
      else
        match base64Value? c with
        | none => .error .foreignCharacter
        | some value =>
            if 0 < state.pads then .error .discontinuousPadding
            else
              let (state, bytes) := state.push value
              (bytes ++ ·) <$> base64DecodeFrom state cs

def base64Decode (cs : List Char) : Except Base64Fault (List UInt8) :=
  if cs.head? = some '=' then .error .leadingPadding else base64DecodeFrom {} cs

/-- Reads from a state on and passes over characters outside the alphabet and over padding that
completes nothing; nothing if a group is not complete at the end. -/
def base64PickFrom? (state : Base64State) : List Char → Option (List UInt8)
  | [] => if state.count % 4 = 0 then some [] else none
  | c :: cs =>
      if c = '=' then
        if state.count % 4 < 2 then base64PickFrom? state cs
        else if 4 ≤ state.count % 4 + (state.pads + 1) then some []
        else base64PickFrom? { state with pads := state.pads + 1 } cs
      else
        match base64Value? c with
        | none => base64PickFrom? state cs
        | some value =>
            let (state, bytes) := state.push value
            (bytes ++ ·) <$> base64PickFrom? state cs

/-- The bytes in a text that may hold other characters besides, such as line ends. -/
def base64Pick? (cs : List Char) : Option (List UInt8) := base64PickFrom? {} cs

end SignalGraph.Text
