import SignalGraph.Text.Blank
import SignalGraph.Text.Quoted

/-!
The words of a command line. Options and operands may come in any order. A word of two hyphens ends
the options, and an option takes its value from its own word or else the next word, whatever that is.
-/

namespace SignalGraph.CommandLine

inductive Key where
  | out
  | keepsPartial
  | config
  | ticks
  | dt
  | seed
  | graph
deriving Repr, DecidableEq

/-- An option as a command knows it: by a long name and perhaps a letter. -/
structure OptionForm where
  key : Key
  name : String
  letter : Option Char := none
  takesValue : Bool := true

inductive WordFault where
  | noCommand
  /-- A name that no command has, and the names of commands that are close to it. -/
  | unknownCommand (name : String) (close : List String)
  | unknownOption (name : String) (close : List String)
  | noValue (name : String)
  | unwantedValue (name : String)
  | extraOperands (operands : List String)
  /-- A source or an option that a command needs is not there. -/
  | missing
  /-- An operand or an option's value is not what it should be. -/
  | invalid
deriving Repr, DecidableEq

/-- A message with the question for names that are close to the one it refuses. -/
def withClose (message : String) (close : List String) : String :=
  if close.isEmpty then message
  else
    let sentence := String.ofList (Text.stripRight (· = '.') message.toList)
    sentence ++ ". Did you mean " ++ ", ".intercalate (close.map Text.quoted) ++ "?"

/-- Faults of one operand or option have no message. -/
def WordFault.message : WordFault → Option String
  | .noCommand => some "Missing command."
  | .unknownCommand name close =>
      some (withClose s!"No such command {Text.quoted name}." close)
  | .unknownOption name close => some (withClose ("No such option: " ++ name) close)
  | .noValue name => some s!"Option {Text.quoted name} requires an argument."
  | .unwantedValue name => some s!"Option {Text.quoted name} does not take a value."
  | .extraOperands operands =>
      let words := " ".intercalate operands
      some s!"Got unexpected extra argument(s) ({words})"
  | .missing => none
  | .invalid => none

/-- Options with their values, in the order given, and operands. -/
structure Words where
  options : List (Key × String) := []
  operands : List String := []

/-- The value of an option; the last one counts. -/
def Words.value? (words : Words) (key : Key) : Option String := words.options.reverse.lookup key

def Words.values (words : Words) (key : Key) : List String :=
  (words.options.filter fun entry => entry.1 = key).map Prod.snd

/-- An option that a word names, and the value that the word has for it. -/
structure NamedOption where
  form : OptionForm
  name : String
  value : Option String

/-- What comes before and behind the first equals sign. -/
def splitEquals (cs : List Char) : List Char × Option (List Char) :=
  match cs.dropWhile (· ≠ '=') with
  | _ :: value => (cs.takeWhile (· ≠ '='), some value)
  | [] => (cs, none)

/-- The option that a word names. A word of one hyphen names it by a letter, and what follows the
letter is the value. -/
def NamedOption.ofWord (forms : List OptionForm) (word : List Char) :
    Except WordFault NamedOption :=
  match word with
  | '-' :: '-' :: _ =>
      let (cs, value) := splitEquals word
      let name := String.ofList cs
      match forms.find? fun form => form.name = name with
      | some form => .ok { form, name, value := value.map String.ofList }
      | none => .error (.unknownOption name [])
  | hyphen :: letter :: value =>
      let name := String.ofList [hyphen, letter]
      match forms.find? fun form => form.letter = some letter with
      | some form =>
          .ok { form, name, value := if value.isEmpty then none else some (.ofList value) }
      | none => .error (.unknownOption name [])
  | _ => .error (.unknownOption (.ofList word) [])

def isOption : List Char → Bool
  | '-' :: _ :: _ => true
  | _ => false

/-- Reads words into those read before them. -/
def Words.readFrom (forms : List OptionForm) (read : Words) :
    List String → Except WordFault Words
  | [] => .ok read
  | word :: rest =>
      let add (key : Key) (value : String) : Words :=
        { read with options := read.options ++ [(key, value)] }
      if word = "--" then .ok { read with operands := read.operands ++ rest }
      else if !isOption word.toList then
        readFrom forms { read with operands := read.operands ++ [word] } rest
      else
        match NamedOption.ofWord forms word.toList with
        | .error fault => .error fault
        | .ok named =>
            if !named.form.takesValue then
              match named.value with
              | some _ => .error (.unwantedValue named.name)
              | none => readFrom forms (add named.form.key "") rest
            else
              match named.value, rest with
              | some value, rest => readFrom forms (add named.form.key value) rest
              | none, value :: rest => readFrom forms (add named.form.key value) rest
              | none, [] => .error (.noValue named.name)

def Words.read (forms : List OptionForm) (words : List String) : Except WordFault Words :=
  readFrom forms {} words

end SignalGraph.CommandLine
