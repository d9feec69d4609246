import SignalGraph.Random.Seed
import SignalGraph.Decimal.Binary

/-!
The generator of random numbers: a congruential state of 128 bits, of which each draw shows the
exclusive or of both halves, rotated by the uppermost six bits. A seed fixes all draws.
-/

namespace SignalGraph.Random

/-- A generator between two draws; the increment is odd and never changes. -/
structure Generator where
  state : BitVec 128
  increment : BitVec 128
deriving DecidableEq

def multiplier : BitVec 128 := 0x2360ed051fc65da44385df649fccf645

def Generator.advance (g : Generator) : Generator :=
  { g with state := g.state * multiplier + g.increment }

def Generator.ofSeed (seed : Nat) : Generator :=
  let words := (Entropy.ofSeed seed).expand 8
  let start := BitVec.ofNat 128 (wideWord words 0 * Nat.pow 2 64 + wideWord words 1)
  let increment := BitVec.ofNat 128 ((wideWord words 2 * Nat.pow 2 64 + wideWord words 3) * 2 + 1)
  let first := Generator.advance { state := 0, increment }
  Generator.advance { first with state := first.state + start }

/-- Why a number is no seed. -/
inductive SeedFault where
  | negative
deriving Repr, DecidableEq

def SeedFault.message : SeedFault → String
  | .negative => "expected non-negative integer"

/-- The seed that an integer stands for. -/
def seedOfInt (n : Int) : Except SeedFault Nat :=
  if 0 ≤ n then .ok n.toNat else .error .negative

/-- The 64 bits that a state shows. -/
def Generator.output (g : Generator) : BitVec 64 :=
  let folded : BitVec 64 := g.state.extractLsb' 64 64 ^^^ g.state.extractLsb' 0 64
  folded.rotateRight (g.state.extractLsb' 122 6).toNat

/-- The next draw, one of the `2 ^ 53` multiples of `2 ^ -53` from 0 up to 1, and the generator
after it. -/
def Generator.draw (g : Generator) : Float × Generator :=
  let next := g.advance
  (Decimal.nearestDouble false (next.output.toNat / Nat.pow 2 11) (Nat.pow 2 53), next)

end SignalGraph.Random
