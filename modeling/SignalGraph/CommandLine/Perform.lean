import SignalGraph.CommandLine.Report

/-!
What each command does. A file that is a saved graph is loaded and any other file compiled as a
script, with its warnings on the second output.
-/

namespace SignalGraph.CommandLine

/-- The circuit that a file holds. -/
def loadCircuit (place : Place) (path : Path) (seed : Option Int) : Action Circuit := do
  let text := place.folder.text path
  let seed ← expect .seed (seed.elim (.ok place.entropy) Random.seedOfInt)
  let circuit := Circuit.ofSeed seed
  if isArchive text then return circuit.load text
  let (circuit, result) := circuit.compile .atomic text
  for warning in result.warnings do warn ("warning: " ++ warning.message)
  match result.fault with
  | some fault => throw (.script path fault)
  | none => return circuit

def compileScript (place : Place) (script : Path) (out : Option Path) (keepsPartial : Bool) :
    Action Unit := do
  let circuit ←
    if keepsPartial then
      let (circuit, result) :=
        (Circuit.ofSeed place.entropy).compile .partialGates (place.folder.text script)
      if let some fault := result.fault then warn ("error: " ++ fault.message)
      pure circuit
    else loadCircuit place script none
  let text ← expect .save circuit.save
  match out with
  | none => modify fun report => { report with output := report.output ++ text }
  | some path =>
      makeFolder true path.parent
      write path text
      say s!"graph written: {path.text} ({circuit.graph.nodes.length} nodes)"

/-- The settings of a run: those of its file or of the environment, with what its options change. -/
def runSettings (place : Place) (config : Option Path) (changes : Fields) : Action Settings := do
  let settings ←
    match config with
    | none => expect .settings (Settings.ofValue place.environment .null)
    | some path => do
        let outline ← expect .yaml (Yaml.read (place.folder.text path))
        expect .settings (Settings.ofOutline place.environment outline)
  if changes.isEmpty then return settings
  expect (fun found => .settings (.issues found)) (settings.change changes)

/-- The options that are given as fields. -/
def changedFields (ticks : Option Nat) (dt : Option Float) (seed : Option Int) : Fields :=
  let field {α : Type} (name : String) (f : α → Value) (a : Option α) : Fields :=
    (a.map fun a => (name, f a)).toList
  field "ticks" (fun n : Nat => .int n) ticks ++ field "dt" .float dt ++ field "seed" .int seed

def runSource (place : Place) (source : Path) (settings : Settings) : Action Unit := do
  let folder := settings.runFolder place.stamp source
  let record := settings.run place.entropy source.text (place.folder.text source)
  makeFolder false folder
  for (name, text) in record.files settings place.time do write (folder.append name) text
  match record.fault with
  | none => say ("Run completed: " ++ folder.text)
  | some (.seed fault) => throw (.seed fault)
  | some (.script fault) => throw (.script source fault)
  | some (.step fault) => throw (.step fault)
  | some (.save fault) => throw (.save fault)

/-- Ticks a circuit without anyone at its controls. -/
def tickTimes (circuit : Circuit) (dt : Float) : Nat → Except StepFault Circuit
  | 0 => .ok circuit
  | count + 1 =>
      match circuit.tick dt .idle with
      | (circuit, none) => tickTimes circuit dt count
      | (_, some fault) => .error fault

def padLeft (width : Nat) (s : String) : String :=
  String.ofList (List.replicate (width - s.length) ' ') ++ s

def padRight (width : Nat) (s : String) : String :=
  s ++ String.ofList (List.replicate (width - s.length) ' ')

/-- A line with a node's id, its name and the numbers at its outlets. -/
def outletLine (node : Node) : String :=
  let outlets := (node.body.outlets.zip node.outlets).map fun (name, x) =>
    name ++ "=" ++ Decimal.general x
  let id := padLeft 4 (Text.ofInt node.idNumber)
  id ++ "  " ++ padRight 20 node.name ++ " " ++ ", ".intercalate outlets

def displayOutlets (place : Place) (source : Path) (ticks : Nat) (dt : Float)
    (seed : Option Int) : Action Unit := do
  let circuit ← loadCircuit place source seed
  let circuit ← expect .step (tickTimes circuit dt ticks)
  for node in circuit.nodes do say (outletLine node)

/-- A line with the names of a kind's inlets and outlets. -/
def kindLine (kind : Kind) : String :=
  let names (slots : List String) : String :=
    if slots.isEmpty then "-" else ", ".intercalate slots
  let body := Body.initial kind
  s!"{kind.name}: in [{names body.inlets}] out [{names body.outlets}]"

def exportCircuit (place : Place) (source : Path) (out : Option Path) : Action Unit := do
  let circuit ← loadCircuit place source none
  let document ← expect .exported circuit.toDocument
  let text := Json.indented document.toValue
  match out with
  | none => say text
  | some path =>
      write path (text ++ "\n")
      say ("graph document written: " ++ path.text)

def validateDocument (place : Place) (path : Path) : Action Unit := do
  let v ← expect .json (Json.read (place.folder.text path))
  match Document.ofValue v with
  | .ok _ => say ("valid graph: " ++ path.text)
  | .error (.issues found) => throw (.document path found)
  | .error .tooLarge => throw .tooLarge

def Command.perform (place : Place) : Command → Action Unit
  | .compile script out keepsPartial => compileScript place script out keepsPartial
  | .run source config ticks dt seed => do
      runSource place source (← runSettings place config (changedFields ticks dt seed))
  | .display source ticks dt seed => displayOutlets place source ticks dt seed
  | .kinds => do for kind in Kind.all do say (kindLine kind)
  | .exportDocument source out => exportCircuit place source out
  | .validate graphs => do for path in graphs do validateDocument place path

/-- Carries out a command line. -/
def perform (place : Place) (arguments : List String) : Option CommandFault × Report :=
  let action : Action Unit := do
    let command ← expect .words (Command.ofArguments place.folder arguments)
    command.perform place
  match action.run.run { folder := place.folder } with
  | (.ok (), report) => (none, report)
  | (.error fault, report) => (some fault, report)

end SignalGraph.CommandLine
