import SignalGraph.Text.Lines
import SignalGraph.Text.Path
import SignalGraph.Text.Quoted
import SignalGraph.Value.Basic

/-!
Files with their text, and folders, as a command finds them where it is run and as it leaves them. A
path is followed name by name to a place. Every name but the last must lead to a folder, and two dots
lead back to the folder above.
-/

namespace SignalGraph.CommandLine

inductive FileProblem where
  | notFound
  | alreadyThere
  | notFolder
  | isFolder
  | longName
deriving Repr, DecidableEq

/-- The number by which systems know a problem. -/
def FileProblem.number : FileProblem → Nat
  | .notFound => 2
  | .alreadyThere => 17
  | .notFolder => 20
  | .isFolder => 21
  | .longName => 36

def FileProblem.text : FileProblem → String
  | .notFound => "No such file or directory"
  | .alreadyThere => "File exists"
  | .notFolder => "Not a directory"
  | .isFolder => "Is a directory"
  | .longName => "File name too long"

structure FileFault where
  problem : FileProblem
  path : Path
deriving Repr, DecidableEq

def FileFault.message (fault : FileFault) : String :=
  s!"[Errno {fault.problem.number}] {fault.problem.text}: {Text.quoted fault.path.text}"

/-- Files and folders by their places. -/
structure Folder where
  files : List (Path × String)
  folders : List Path

def Folder.isFile (folder : Folder) (place : Path) : Bool := (folder.files.lookup place).isSome

/-- The start of a path is a folder, and so are the places above it. -/
def Folder.isFolder (folder : Folder) (place : Path) : Bool :=
  place.names.all (· = "..") || place ∈ folder.folders

/-- Names are at most this many bytes long. -/
def nameLimit : Nat := 255

/-- The place to which names lead from another one. -/
def Folder.follow (folder : Folder) (place : Path) : List String → Except FileProblem Path
  | [] => .ok place
  | name :: names =>
      if !folder.isFolder place then
        .error (if folder.isFile place then .notFolder else .notFound)
      else if nameLimit < name.utf8ByteSize then .error .longName
      else folder.follow (place.enter name) names

/-- The place to which a path leads, where nothing need be. -/
def Folder.placeOf (folder : Folder) (path : Path) : Except FileProblem Path :=
  folder.follow { path with names := [] } path.names

def Folder.hasFile (folder : Folder) (path : Path) : Bool :=
  (folder.placeOf path).toOption.any folder.isFile

def Folder.hasFolder (folder : Folder) (path : Path) : Bool :=
  (folder.placeOf path).toOption.any folder.isFolder

/-- The text of a file, with a line feed for every line end. -/
def Folder.text (folder : Folder) (path : Path) : String :=
  let text := (folder.placeOf path).toOption.bind fun place => folder.files.lookup place
  String.ofList (Text.unifyLineEnds (text.getD "").toList)

/-- Makes a folder at a place where nothing is. -/
def Folder.make (folder : Folder) (path : Path) : Except FileProblem Folder := do
  let place ← folder.placeOf path
  if folder.isFolder place || folder.isFile place then throw .alreadyThere
  return { folder with folders := place :: folder.folders }

/-- Makes a folder, which may be there already if `mayExist`. -/
def Folder.makeOne (folder : Folder) (mayExist : Bool) (path : Path) :
    Except FileFault Folder :=
  match folder.make path with
  | .ok folder => .ok folder
  | .error problem =>
      if problem ≠ .notFound && mayExist && folder.hasFolder path then .ok folder
      else .error { problem, path }

/-- Makes a folder, and before it up to `depth` of the folders above it that are not there. -/
def Folder.makeFrom (folder : Folder) (depth : Nat) (mayExist : Bool) (path : Path) :
    Except FileFault Folder :=
  match folder.make path, depth with
  | .error .notFound, depth + 1 => do
      (← folder.makeFrom depth true path.parent).makeOne mayExist path
  | _, _ => folder.makeOne mayExist path

/-- Makes a folder and all folders above it that are not there. -/
def Folder.makeAll (folder : Folder) (mayExist : Bool) (path : Path) : Except FileFault Folder :=
  folder.makeFrom path.names.length mayExist path

/-- Writes a file in a folder that is there, and tells its place. -/
def Folder.write (folder : Folder) (path : Path) (text : String) :
    Except FileFault (Folder × Path) :=
  match folder.placeOf path with
  | .error problem => .error { problem, path }
  | .ok place =>
      if folder.isFolder place then .error { problem := .isFolder, path }
      else .ok ({ folder with files := putEntry place text folder.files }, place)

end SignalGraph.CommandLine
