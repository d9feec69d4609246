import SignalGraph.Text.Quoted

/-!
Text as UTF-8 bytes. Decoding refuses all that is not the shortest form of a Unicode scalar value
and says which bytes are at fault: from the lead byte of the character in question to the last
byte that still fitted.
-/

namespace SignalGraph.Text

def utf8Encode (cs : List Char) : List UInt8 := cs.flatMap String.utf8EncodeChar

inductive Utf8Flaw where
  | startByte
  | continuationByte
  | endOfData
deriving Repr, DecidableEq

/-- A flaw in the character whose lead byte stands at `position`; `length` bytes are at fault. -/
structure Utf8Fault where
  flaw : Utf8Flaw
  lead : UInt8
  position : Nat
  length : Nat
deriving Repr, DecidableEq

def Utf8Flaw.message : Utf8Flaw → String
  | .startByte => "invalid start byte"
  | .continuationByte => "invalid continuation byte"
  | .endOfData => "unexpected end of data"

def Utf8Fault.message (fault : Utf8Fault) : String :=
  let place :=
    if fault.length = 1 then
      "byte 0x" ++ String.ofList (hexDigits 2 fault.lead.toNat) ++ s!" in position {fault.position}"
    else
      s!"bytes in position {fault.position}-{fault.position + fault.length - 1}"
  "'utf-8' codec can't decode " ++ place ++ ": " ++ fault.flaw.message

/-- A character of which `length` bytes are read and `missing` are not; the next one must lie
between `low` and `high`. -/
structure Utf8Pending where
  lead : UInt8
  position : Nat
  length : Nat
  code : Nat
  missing : Nat
  low : UInt8
  high : UInt8

/-- What a lead byte above the ASCII range announces. The bounds on the second byte rule out longer
forms of a smaller code point, surrogates, and all beyond U+10FFFF. -/
def utf8Lead (position : Nat) (b : UInt8) : Option Utf8Pending :=
  let pending (code missing : Nat) (low high : UInt8) : Option Utf8Pending :=
    some { lead := b, position, length := 1, code, missing, low, high }
  if b < 0xc2 then none
  else if b < 0xe0 then pending (b.toNat - 0xc0) 1 0x80 0xbf
  else if b < 0xf0 then
    pending (b.toNat - 0xe0) 2 (if b = 0xe0 then 0xa0 else 0x80) (if b = 0xed then 0x9f else 0xbf)
  else if b < 0xf5 then
    pending (b.toNat - 0xf0) 3 (if b = 0xf0 then 0x90 else 0x80) (if b = 0xf4 then 0x8f else 0xbf)
  else none

/-- Decodes the bytes from `position` on, given the character that the bytes before left open. -/
def utf8DecodeFrom (position : Nat) : Option Utf8Pending → List UInt8 → Except Utf8Fault (List Char)
  | none, [] => .ok []
  | some p, [] =>
      .error { flaw := .endOfData, lead := p.lead, position := p.position, length := p.length }
  | none, b :: bs =>
      if b < 0x80 then (Char.ofNat b.toNat :: ·) <$> utf8DecodeFrom (position + 1) none bs
      else
        match utf8Lead position b with
        | none => .error { flaw := .startByte, lead := b, position, length := 1 }
        | some p => utf8DecodeFrom (position + 1) (some p) bs
  | some p, b :: bs =>
      if p.low ≤ b && b ≤ p.high then
        let code := p.code * 64 + (b.toNat - 0x80)
        if p.missing ≤ 1 then (Char.ofNat code :: ·) <$> utf8DecodeFrom (position + 1) none bs
        else
          let next := { p with
            length := p.length + 1, code, missing := p.missing - 1, low := 0x80, high := 0xbf }
          utf8DecodeFrom (position + 1) (some next) bs
      else
        .error { flaw := .continuationByte, lead := p.lead, position := p.position
                 length := p.length }

def utf8Decode (bytes : List UInt8) : Except Utf8Fault (List Char) := utf8DecodeFrom 0 none bytes

end SignalGraph.Text
