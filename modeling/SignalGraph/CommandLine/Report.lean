import SignalGraph.CommandLine.Command
import SignalGraph.Run.Basic
import SignalGraph.Graph.Document
import SignalGraph.Value.Json.Reader

/-!
What a command brings about: text for its two outputs, files, and perhaps a fault that ends it. What
came before the fault remains.
-/

namespace SignalGraph.CommandLine

inductive CommandFault where
  | words (fault : WordFault)
  | settings (fault : SettingsFault)
  | yaml (fault : Yaml.Fault)
  | seed (fault : Random.SeedFault)
  | script (path : Path) (fault : Script.Fault)
  | step (fault : StepFault)
  | save (fault : SaveFault)
  | exported (fault : ExportFault)
  | json (fault : Json.Fault)
  | document (path : Path) (issues : List Form.Issue)
  | tooLarge
  | file (fault : FileFault)

def invalidSettings (message : String) : String := "Invalid run configuration: " ++ message

/-- Malformed YAML and JSON, and faults of one operand or option, have no message. -/
def CommandFault.message : CommandFault → Option String
  | .words fault => fault.message
  | .settings .keyNotText => some SettingsFault.keyNotText.message
  | .settings fault => some (invalidSettings fault.message)
  | .yaml (.scalar fault) =>
      some (if fault.concernsValue then invalidSettings fault.message else fault.message)
  | .yaml fault => fault.message
  | .seed fault => some fault.message
  | .script path fault => some (path.text ++ ": " ++ fault.message)
  | .step fault => some fault.message
  | .save fault => some fault.message
  | .exported (.noPosition id) => some (SaveFault.noPosition id).message
  | .exported (.document (.issues found)) => some (Form.report "GraphDocument" found)
  | .exported (.document .tooLarge) => some NumberFault.tooLarge.message
  | .json .malformed => none
  | .json (.number fault) => some fault.message
  | .document path found => some (path.text ++ ": " ++ Form.report "GraphDocument" found)
  | .tooLarge => some NumberFault.tooLarge.message
  | .file fault => some fault.message

/-- What a command has put out and written so far, and how it leaves the files around it. -/
structure Report where
  output : String := ""
  errors : String := ""
  written : List (Path × String) := []
  folder : Folder

/-- What a command finds around it: files, the variables of the environment, the time, as folders
and as events show it, and a number for what has no seed. -/
structure Place where
  folder : Folder
  environment : List (String × String)
  stamp : String
  time : String
  entropy : Nat

abbrev Action (α : Type) := ExceptT CommandFault (StateM Report) α

def say (line : String) : Action Unit :=
  modify fun report => { report with output := report.output ++ line ++ "\n" }

def warn (line : String) : Action Unit :=
  modify fun report => { report with errors := report.errors ++ line ++ "\n" }

/-- Goes on with a result, or ends with a fault of some kind. -/
def expect {α ε : Type} (kind : ε → CommandFault) (result : Except ε α) : Action α :=
  match result with
  | .ok a => return a
  | .error fault => throw (kind fault)

def write (path : Path) (text : String) : Action Unit := do
  let (folder, place) ← expect .file ((← get).folder.write path text)
  modify fun report => { report with folder, written := putEntry place text report.written }

/-- Makes a folder and those above it. -/
def makeFolder (mayExist : Bool) (path : Path) : Action Unit := do
  let folder ← expect .file ((← get).folder.makeAll mayExist path)
  modify fun report => { report with folder }

end SignalGraph.CommandLine
