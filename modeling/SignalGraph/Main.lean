import SignalGraph.CommandLine.Perform
import Std.Time

/-!
The program: it gathers what a command line may need, carries the command line out, and puts files
and texts where they belong.
-/

namespace SignalGraph.CommandLine

/-- The texts of a command line that may name files: every word, and the values that options have in
their own words. -/
def pathTexts (words : List String) : List String :=
  words.flatMap fun word =>
    let cs := word.toList
    if isOption cs then
      word :: String.ofList (cs.drop 2) :: ((splitEquals cs).2.map String.ofList).toList
    else [word]

/-- A path and all places that its names lead through. -/
def placesOf (path : Path) : List Path :=
  path.names.foldl (fun places name =>
    match places with
    | place :: _ => place.enter name :: places
    | [] => []) [{ path with names := [] }]

/-- The files and folders that texts may name. -/
def gatherFolder (texts : List String) : IO Folder := do
  let here ← IO.currentDir
  let mut folder : Folder := { files := [], folders := [] }
  for place in (texts.flatMap fun text => placesOf (.ofText text)).eraseDups do
    let found := here / place.text
    if ← found.isDir then folder := { folder with folders := place :: folder.folders }
    else if ← found.pathExists then
      folder := { folder with files := (place, ← IO.FS.readFile found) :: folder.files }
  return folder

/-- The variables of the environment that stand for settings. -/
def gatherVariables : IO (List (String × String)) := do
  let mut environment := []
  for name in Settings.names do
    let lower := Settings.lowerText (Settings.variableStart ++ name)
    for key in [lower, String.ofList (lower.toList.map Char.toUpper)] do
      if let some value ← IO.getEnv key then environment := environment ++ [(key, value)]
  return environment

def gather (words : List String) : IO Place := do
  let now := Std.Time.DateTime.ofTimestamp (← Std.Time.Timestamp.now) .UTC
  let environment ← gatherVariables
  return {
    folder := ← gatherFolder (pathTexts words ++ environment.map Prod.snd)
    environment
    stamp := now.format "uuuuMMdd'T'HHmmssSSSSSS'Z'"
    time := now.format "uuuu-MM-dd'T'HH:mm:ss.SSSSSS'+00:00'"
    entropy := ← IO.rand 0 (Nat.pow 2 64) }

/-- Carries out a command line in the current folder. -/
def runWords (words : List String) : IO UInt32 := do
  let place ← gather words
  let (fault, report) := perform place words
  for made in report.folder.folders do
    if !place.folder.isFolder made then IO.FS.createDirAll made.text
  for (path, text) in report.written do IO.FS.writeFile path.text text
  IO.print report.output
  IO.eprint report.errors
  match fault with
  | none => return 0
  | some fault =>
      IO.eprintln ("Error: " ++ fault.message.getD "invalid arguments or input")
      return 2

end SignalGraph.CommandLine

def main (words : List String) : IO UInt32 := SignalGraph.CommandLine.runWords words
