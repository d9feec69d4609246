import SignalGraph.Form.Check
import SignalGraph.Text.Lower
import SignalGraph.Text.Path
import SignalGraph.Value.Yaml.Printer
import SignalGraph.Value.Yaml.Reader

/-!
Settings of a run. A setting that is given wins over a variable of the environment, and a variable
over the default; what wins is checked, and nothing else. Names of settings and of variables count in
any case.
-/

namespace SignalGraph

structure Settings where
  dt : Float
  ticks : Nat
  seed : Option Int
  atomicCompile : Bool
  trace : Bool
  runsRoot : Path

namespace Settings

def names : List String := ["dt", "ticks", "seed", "atomic_compile", "trace", "runs_root"]

/-- What variables of the environment put in front of a setting's name. -/
def variableStart : String := "TOYCON_"

def tickLimit : Nat := 1000000

def lowerText (s : String) : String := String.ofList (Text.lower s.toList)

/-- Fields with the names of settings in lower case; of the fields that give one setting the first
counts. -/
def canonical (given : Fields) : Fields :=
  given.foldl (fun fields (name, v) =>
    let lower := lowerText name
    if lower ∉ names then putEntry name v fields
    else if (fields.lookup lower).isSome then fields
    else fields ++ [(lower, v)]) []

/-- The value of a setting's variable; of variables that differ in case the last one counts. -/
def lookupVariable (environment : List (String × String)) (name : String) : Option String :=
  let wanted := lowerText (variableStart ++ name)
  (environment.reverse.find? fun entry => lowerText entry.1 = wanted).map Prod.snd

/-- Fields with those settings added that only the environment has. -/
def withVariables (environment : List (String × String)) (fields : Fields) : Fields :=
  fields ++ names.filterMap fun name =>
    match fields.lookup name, lookupVariable environment name with
    | none, some s => some (name, .text s)
    | _, _ => none

def checkDt (v : Value) : Form.Checked Float := do Form.positive (← Form.float v)

def checkTicks (v : Value) : Form.Checked Nat := do
  let n ← Form.int v
  let n ← Form.atLeast 0 n
  let n ← Form.atMost tickLimit n
  return n.toNat

def checkSeed : Value → Form.Checked (Option Int)
  | .null => .ok none
  | v => (Form.int v).map some

def checkPath : Value → Form.Checked Path
  | .text s => .ok (.ofText s)
  | _ => Form.issue .notPath

/-- Checks all settings, with the defaults of those that are missing. -/
def check (fields : Fields) : Form.Checked Settings :=
  let checked : Form.Checked Settings :=
    .apply (.apply (.apply (.apply (.apply (.map Settings.mk
      (Form.optional "dt" checkDt (1.0 / 60.0) fields))
      (Form.optional "ticks" checkTicks 60 fields))
      (Form.optional "seed" checkSeed none fields))
      (Form.optional "atomic_compile" Form.bool true fields))
      (Form.optional "trace" Form.bool true fields))
      (Form.optional "runs_root" checkPath (.ofText "runs") fields)
  checked.and (Form.extraIssues names fields)

/-- Settings from fields that are given and from the environment. -/
def ofFields (environment : List (String × String)) (given : Fields) : Form.Checked Settings :=
  check (withVariables environment (canonical given))

end Settings

inductive SettingsFault where
  | notMapping
  | keyNotText
  | issues (issues : List Form.Issue)
deriving Repr, DecidableEq

def SettingsFault.message : SettingsFault → String
  | .notMapping => "Config file root must be a mapping/object."
  | .keyNotText => "keywords must be strings"
  | .issues found => Form.report "EngineSettings" found

namespace Settings

/-- The settings that loosely typed data describes; null gives none of them. -/
def ofValue (environment : List (String × String)) : Value → Except SettingsFault Settings
  | .null => (ofFields environment []).mapError .issues
  | .object given => (ofFields environment given).mapError .issues
  | _ => .error .notMapping

/-- The value of a setting as a form takes it. No setting is a moment, and none has parts, so an empty
list stands for all of these, and an empty object for a mapping. Bytes are taken as text, though not
as a path; bytes that are no text are like a text of no use. -/
def valueOfDatum (name : String) : Yaml.Datum → Value
  | .null => .null
  | .bool b => .bool b
  | .int n => .int n
  | .float x => .float x
  | .text s => .text s
  | .bytes bytes =>
      if lowerText name = "runs_root" then .list []
      else .text (String.ofList ((Text.utf8Decode bytes).toOption.getD []))
  | .mapping => .object []
  | _ => .list []

/-- Entries as fields, if every key is a text; of entries with one key the last one counts. -/
def fieldsOfEntries? (entries : List (Yaml.Datum × Yaml.Datum)) : Option Fields :=
  entries.foldl (fun fields? (key, v) =>
    match fields?, key with
    | some fields, .text name => some (putEntry name (valueOfDatum name v) fields)
    | _, _ => none) (some [])

/-- The settings that a YAML text describes. -/
def ofOutline (environment : List (String × String)) (outline : Yaml.Outline) :
    Except SettingsFault Settings :=
  match outline.top with
  | .mapping =>
      (fieldsOfEntries? outline.entries).elim (.error .keyNotText) fun given =>
        ofValue environment (.object given)
  | top => ofValue environment (valueOfDatum "" top)

def fields (settings : Settings) : Fields := [
  ("dt", .float settings.dt), ("ticks", .int settings.ticks),
  ("seed", (settings.seed.map Value.int).getD .null),
  ("atomic_compile", .bool settings.atomicCompile), ("trace", .bool settings.trace),
  ("runs_root", .text settings.runsRoot.text)]

/-- Settings with some of them changed, all checked again. -/
def change (settings : Settings) (changes : Fields) : Form.Checked Settings :=
  check (changes.foldl (fun fields (name, v) => putEntry name v fields) settings.fields)

/-- Settings as YAML text, in ascending order of their names. -/
def yaml (settings : Settings) : String :=
  let flag (b : Bool) : String := if b then "true" else "false"
  let seed := (settings.seed.map Text.ofInt).getD "null"
  s!"atomic_compile: {flag settings.atomicCompile}\n" ++
    s!"dt: {Yaml.float settings.dt}\n" ++
    Yaml.textEntry "runs_root" settings.runsRoot.text ++
    s!"seed: {seed}\n" ++
    s!"ticks: {settings.ticks}\n" ++
    s!"trace: {flag settings.trace}\n"

end Settings

end SignalGraph
