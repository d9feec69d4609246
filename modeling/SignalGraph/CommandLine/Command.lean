import SignalGraph.CommandLine.Folder
import SignalGraph.CommandLine.Words
import SignalGraph.Decimal.Numeral
import SignalGraph.Text.Similarity

/-!
Commands, and how words become one. Of several faults the one of the earliest check counts: names of
options, values of options, the source, options that are missing, operands too many.
-/

namespace SignalGraph.CommandLine

inductive Command where
  | compile (script : Path) (out : Option Path) (keepsPartial : Bool)
  | run (source : Path) (config : Option Path) (ticks : Option Nat) (dt : Option Float)
      (seed : Option Int)
  | display (source : Path) (ticks : Nat) (dt : Float) (seed : Option Int)
  | kinds
  | exportDocument (source : Path) (out : Option Path)
  | validate (graphs : List Path)

inductive CommandName where
  | compile
  | run
  | display
  | kinds
  | exportDocument
  | validate
deriving Repr, DecidableEq

def CommandName.ofText? : String → Option CommandName
  | "compile" => some .compile
  | "run" => some .run
  | "show" => some .display
  | "kinds" => some .kinds
  | "export-json" => some .exportDocument
  | "validate" => some .validate
  | _ => none

/-- The names that a word which names no command is compared with. A server has a command, too, but
it is a program of its own. -/
def commandWords : List String :=
  ["compile", "run", "show", "kinds", "export-json", "validate", "serve"]

/-- Names of commands that a mistyped word may stand for. -/
def closeCommands (word : String) : List String := Text.closest 3 word commandWords

def outForm : OptionForm := { key := .out, name := "--out", letter := some 'o' }

def tickForms : List OptionForm := [
  { key := .ticks, name := "--ticks", letter := some 'n' },
  { key := .dt, name := "--dt" },
  { key := .seed, name := "--seed" }]

def CommandName.forms : CommandName → List OptionForm
  | .compile => [outForm, { key := .keepsPartial, name := "--partial", takesValue := false }]
  | .run => { key := .config, name := "--config", letter := some 'c' } :: tickForms
  | .display => tickForms
  | .kinds => []
  | .exportDocument => [outForm]
  | .validate => [{ key := .graph, name := "--graph" }]

abbrev Checked (α : Type) := Except WordFault α

def valid {α : Type} (a : Option α) : Checked α := a.elim (.error .invalid) .ok

/-- A file that must be there. -/
def Folder.existing (folder : Folder) (word : String) : Checked Path :=
  let path := Path.ofText word
  if folder.hasFile path then .ok path else .error .invalid

/-- A file to write, which need not be there. -/
def Folder.writable (folder : Folder) (word : String) : Checked Path :=
  let path := Path.ofText word
  if folder.hasFolder path then .error .invalid else .ok path

def integer (word : String) : Checked Int := valid (Decimal.readInt word).toOption

def count (word : String) : Checked Nat := do
  let n ← integer word
  if 0 ≤ n then return n.toNat else throw .invalid

def number (word : String) : Checked Float := valid (Decimal.readFloat? word)

/-- The checked value of an option, if it is given. -/
def Words.optional {α : Type} (words : Words) (key : Key) (check : String → Checked α) :
    Checked (Option α) :=
  match words.value? key with
  | some word => (check word).map some
  | none => .ok none

/-- The source of a command, and no operand behind it. -/
def Words.source (words : Words) (folder : Folder) : Checked Path :=
  match words.operands with
  | [] => .error .missing
  | word :: extra => do
      let path ← folder.existing word
      if extra.isEmpty then return path else throw (.extraOperands extra)

def Words.noOperands (words : Words) : Checked Unit :=
  if words.operands.isEmpty then .ok () else .error (.extraOperands words.operands)

/-- The time between ticks when none is given. -/
def usualDt : Float := 1.0 / 60.0

def Command.ofWords (folder : Folder) (name : CommandName) (words : Words) : Checked Command :=
  match name with
  | .compile => do
      let out ← words.optional .out folder.writable
      return .compile (← words.source folder) out (words.value? .keepsPartial).isSome
  | .run => do
      let config ← words.optional .config folder.existing
      let ticks ← words.optional .ticks count
      let dt ← words.optional .dt number
      let seed ← words.optional .seed integer
      return .run (← words.source folder) config ticks dt seed
  | .display => do
      let ticks ← words.optional .ticks count
      let dt ← words.optional .dt number
      let seed ← words.optional .seed integer
      return .display (← words.source folder) (ticks.getD 1) (dt.getD usualDt) seed
  | .kinds => do
      words.noOperands
      return .kinds
  | .exportDocument => do
      let out ← words.optional .out folder.writable
      return .exportDocument (← words.source folder) out
  | .validate => do
      let graphs ← (words.values .graph).mapM folder.existing
      if graphs.isEmpty then throw .missing
      words.noOperands
      return .validate graphs

/-- Why a word names no command. One that starts like an option is taken for an option. -/
def notCommand (word : String) : WordFault :=
  let close := closeCommands word
  if isOption word.toList && word ≠ "--" then
    match NamedOption.ofWord [] word.toList with
    | .error (.unknownOption name _) => .unknownOption name close
    | _ => .unknownCommand word close
  else .unknownCommand word close

/-- The command that the words behind the options of the program give. -/
def Command.named (folder : Folder) : List String → Checked Command
  | [] => .error .noCommand
  | word :: rest =>
      match CommandName.ofText? word with
      | some name => do Command.ofWords folder name (← Words.read name.forms rest)
      | none => .error (notCommand word)

/-- The command that a command line gives. The program has no options of its own, and two hyphens say
that none follow. -/
def Command.ofArguments (folder : Folder) : List String → Checked Command
  | [] => .error .noCommand
  | word :: rest => do
      if word = "--" then Command.named folder rest
      else
        if isOption word.toList then
          let _ ← NamedOption.ofWord [] word.toList
        Command.named folder (word :: rest)

end SignalGraph.CommandLine
