/-!
How alike two texts are. The longest run of characters that they have in common is taken out, then
the longest runs before and behind it, and so on; two texts are the more alike the greater the share
of their characters in such runs.
-/

namespace SignalGraph.Text

/-- Where a run that two texts have in common starts in each of them, and how long it is. -/
structure CommonRun where
  left : Nat
  right : Nat
  length : Nat
deriving Repr, DecidableEq

/-- How many characters two texts have in common at their starts. -/
def commonStart : List Char → List Char → Nat
  | c :: cs, d :: ds => if c = d then commonStart cs ds + 1 else 0
  | _, _ => 0

/-- The longest run in common. Of several, the one that starts first in the left text counts, and of
those the first in the right text. -/
def longestRun (left right : List Char) : CommonRun :=
  let starts := (List.range left.length).flatMap fun i =>
    (List.range right.length).map fun j => (i, j)
  starts.foldl (fun best (i, j) =>
    let length := commonStart (left.drop i) (right.drop j)
    if best.length < length then { left := i, right := j, length } else best)
    { left := 0, right := 0, length := 0 }

/-- How many characters lie in runs in common. Runs are sought before and behind others at most
`bound` times over; the length of the left text allows for all. -/
def commonCount (bound : Nat) (left right : List Char) : Nat :=
  match bound with
  | 0 => 0
  | bound + 1 =>
      let run := longestRun left right
      if run.length = 0 then 0
      else
        commonCount bound (left.take run.left) (right.take run.right) + run.length +
          commonCount bound (left.drop (run.left + run.length))
            (right.drop (run.right + run.length))

/-- How many characters two texts have in runs in common, and how many they have in total. -/
structure Likeness where
  common : Nat
  total : Nat

def likeness (left right : String) : Likeness :=
  { common := commonCount left.length left.toList right.toList
    total := left.length + right.length }

/-- Whether at least six in ten of all characters lie in runs in common. -/
def Likeness.isClose (l : Likeness) : Bool := 6 * l.total ≤ 10 * (2 * l.common)

def Likeness.isGreater (a b : Likeness) : Bool := b.common * a.total < a.common * b.total

/-- The candidates that are close to a word, at most `count` of them and the closest first; of those
equally close the last one in the order of characters comes first. -/
def closest (count : Nat) (word : String) (candidates : List String) : List String :=
  let close := candidates.filterMap fun candidate =>
    let l := likeness candidate word
    if l.isClose then some (l, candidate) else none
  let sorted := close.mergeSort fun a b =>
    a.1.isGreater b.1 || (!b.1.isGreater a.1 && decide (b.2 ≤ a.2))
  (sorted.take count).map Prod.snd

end SignalGraph.Text
