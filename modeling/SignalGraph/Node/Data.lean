import SignalGraph.Node.Create
import SignalGraph.Text.Base64
import SignalGraph.Text.Lower
import SignalGraph.Text.Utf8

/-!
The data of a node in a saved text: one piece of text that holds the node's settings, or nothing. A
script is kept in base64, so that it stays one word.
-/

namespace SignalGraph

/-- The first run of characters beyond ASCII in a text, and its position. -/
structure AsciiFault where
  run : List Char
  position : Nat
deriving Repr, DecidableEq

/-- A character by its code point, in the shortest of three escapes. -/
def codeEscape (c : Char) : String :=
  String.ofList
    (if c.toNat < 0x100 then '\\' :: 'x' :: Text.hexDigits 2 c.toNat
    else if c.toNat < 0x10000 then '\\' :: 'u' :: Text.hexDigits 4 c.toNat
    else '\\' :: 'U' :: Text.hexDigits 8 c.toNat)

def AsciiFault.message (fault : AsciiFault) : String :=
  let place :=
    match fault.run with
    | [c] => s!"character '{codeEscape c}' in position {fault.position}"
    | run => s!"characters in position {fault.position}-{fault.position + run.length - 1}"
  s!"'ascii' codec can't encode {place}: ordinal not in range(128)"

def isAscii (c : Char) : Bool := c.toNat < 0x80

def asciiFault? (cs : List Char) : Option AsciiFault :=
  match cs.dropWhile isAscii with
  | [] => none
  | rest =>
      some {
        run := rest.takeWhile fun c => !isAscii c
        position := (cs.takeWhile isAscii).length }

inductive DataFault where
  | create (fault : CreateFault)
  | toggle (data : String)
  | ascii (fault : AsciiFault)
  | base64 (fault : Text.Base64Fault)
  | utf8 (fault : Text.Utf8Fault)

def DataFault.message : DataFault → String
  | .create fault => fault.message
  | .toggle data => s!"invalid toggle flag '{data}'"
  | .ascii fault => fault.message
  | .base64 fault => fault.message
  | .utf8 fault => fault.message

/-- A truth value in any case, with blanks around it. -/
def readToggle (data : String) : Except DataFault Bool :=
  let word := String.ofList (Text.lower (Text.strip Text.isBlank data.toList))
  if word = "true" then .ok true
  else if word = "false" then .ok false
  else .error (.toggle data)

/-- The text that base64 data holds in UTF-8. -/
def readScript (data : String) : Except DataFault String := do
  if let some fault := asciiFault? data.toList then throw (.ascii fault)
  let bytes ← (Text.base64Decode data.toList).mapError .base64
  let cs ← (Text.utf8Decode bytes).mapError .utf8
  return String.ofList cs

/-- A body from its data. Without data its settings are those it starts with, and a kind without
settings takes no notice of its data. -/
def Body.ofData (kind : Kind) (data : String) : Except DataFault Body :=
  if data.isEmpty then (Body.ofParam kind none).mapError .create
  else
    match kind with
    | .button => return .button (← readToggle data) false false
    | .script => return .script (.text (← readScript data))
    | .timer => .ok (.timer 0.0)
    | kind =>
        (Body.ofParam kind (if kind.param?.isSome then some (.text data) else none)).mapError
          .create

/-- A script that is not a text has no bytes. -/
structure ScriptFault where
  typeName : String
deriving Repr, DecidableEq

def ScriptFault.message (fault : ScriptFault) : String :=
  s!"'{fault.typeName}' object has no attribute 'encode'"

/-- The data of a node. Only a key or a sound that is not a text gives data that is none. -/
def Body.data : Body → Except ScriptFault Value
  | .constant value => .ok (.text (Decimal.plain value))
  | .math op => .ok (.text op.name)
  | .logic op => .ok (.text op.name)
  | .counter value _ _ => .ok (.text (Decimal.plain value))
  | .button toggle _ _ => .ok (.text (if toggle then "True" else "False"))
  | .key value => .ok value
  | .beep b => .ok b.sound
  | .script (.text s) =>
      .ok (.text (String.ofList (Text.base64Encode (Text.utf8Encode s.toList))))
  | .script v => .error { typeName := v.typeName }
  | _ => .ok (.text "")

end SignalGraph
