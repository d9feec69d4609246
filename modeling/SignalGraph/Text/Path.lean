/-!
Paths as text. A path is a root, which relative paths lack, and the names along it. Empty names and
names of a single dot say nothing and are left out; names of two dots stay.
-/

namespace SignalGraph

structure Path where
  root : String
  names : List String
deriving Repr, DecidableEq

/-- The text between the slashes, in order. -/
def slashParts : List Char → List (List Char)
  | [] => [[]]
  | c :: cs =>
      if c = '/' then [] :: slashParts cs
      else
        match slashParts cs with
        | [] => [[c]]
        | part :: parts => (c :: part) :: parts

/-- Two slashes at the start are a root of their own; one, or more than two, are the common one. -/
def rootOf (cs : List Char) : String :=
  match (cs.takeWhile (· = '/')).length with
  | 0 => ""
  | 2 => "//"
  | _ => "/"

def Path.ofText (s : String) : Path :=
  let cs := s.toList
  { root := rootOf cs
    names := ((slashParts cs).map String.ofList).filter fun name => name ≠ "" && name ≠ "." }

/-- A path that goes nowhere is written as a dot. -/
def Path.text (p : Path) : String :=
  if p.root = "" && p.names.isEmpty then "." else p.root ++ "/".intercalate p.names

def Path.append (p : Path) (name : String) : Path := { p with names := p.names ++ [name] }

/-- The path without its last name. -/
def Path.parent (p : Path) : Path := { p with names := p.names.dropLast }

/-- The place to which one more name leads from a place, where two dots lead up. Above the root is
nothing but the root; places above the start of a relative path are written with two dots. -/
def Path.enter (place : Path) (name : String) : Path :=
  if name ≠ ".." then place.append name
  else if place.names.getLast?.all (· = "..") then
    if place.root = "" then place.append ".." else place
  else place.parent

def Path.name (p : Path) : String := p.names.getLast?.getD ""

/-- The last name without its ending, which starts at the last dot; a dot at either end of the name
starts none. -/
def Path.stem (p : Path) : String :=
  let cs := p.name.toList
  let ending := (cs.reverse.takeWhile (· ≠ '.')).length
  if ending = 0 || cs.length ≤ ending + 1 then p.name
  else String.ofList (cs.take (cs.length - ending - 1))

end SignalGraph
