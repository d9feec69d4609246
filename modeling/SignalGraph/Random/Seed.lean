/-!
From one seed to the four words that start a generator. The words of the seed are hashed into a
pool of four, every word of the pool is stirred into every other one, and the pool is hashed again
into the words given out. All arithmetic wraps at 32 bits.
-/

namespace SignalGraph.Random

/-- A word hashed with a running constant, and the next constant. -/
def hashWord (multiplier constant word : UInt32) : UInt32 × UInt32 :=
  let next := constant * multiplier
  let hashed := (word ^^^ constant) * next
  (hashed ^^^ (hashed >>> 16), next)

/-- A word of the pool with a hashed word stirred in. -/
def mixWords (x y : UInt32) : UInt32 :=
  let mixed := 0xca01f9dd * x - 0x4973f715 * y
  mixed ^^^ (mixed >>> 16)

/-- The words of a number, the least significant first; zero is one word. At most `fuel` words. -/
def seedWords (seed : Nat) : Nat → List UInt32
  | 0 => []
  | fuel + 1 =>
      UInt32.ofNat (seed % Nat.pow 2 32) ::
        if seed < Nat.pow 2 32 then [] else seedWords (seed / Nat.pow 2 32) fuel

/-- Four words and the running constant that hashes into them. -/
structure Entropy where
  words : List UInt32
  constant : UInt32

def Entropy.word (pool : Entropy) (i : Nat) : UInt32 := pool.words.getD i 0

/-- Hashes a word and puts it at the end of the pool. -/
def Entropy.push (pool : Entropy) (word : UInt32) : Entropy :=
  let (hashed, constant) := hashWord 0x931e8875 pool.constant word
  { words := pool.words ++ [hashed], constant }

/-- Hashes a word and stirs it into word `i` of the pool. -/
def Entropy.stir (pool : Entropy) (word : UInt32) (i : Nat) : Entropy :=
  let (hashed, constant) := hashWord 0x931e8875 pool.constant word
  { words := pool.words.set i (mixWords (pool.word i) hashed), constant }

def Entropy.ofSeed (seed : Nat) : Entropy :=
  let words := seedWords seed (seed.log2 / 32 + 1)
  let hashed := (List.range 4).foldl (fun pool i => pool.push (words.getD i 0))
    { words := [], constant := 0x43b0d7e5 }
  let stirred := (List.range 4).foldl (fun pool source =>
    (List.range 4).foldl (fun pool target =>
      if source = target then pool else pool.stir (pool.word source) target) pool) hashed
  (words.drop 4).foldl (fun pool word => (List.range 4).foldl (·.stir word) pool) stirred

/-- Hashes the pool, again and again from its start, into `count` words. -/
def Entropy.expand (pool : Entropy) (count : Nat) : List UInt32 :=
  ((List.range count).foldl (fun (words, constant) i =>
    let (hashed, constant) := hashWord 0x58f38ded constant (pool.word (i % 4))
    (words ++ [hashed], constant)) (([] : List UInt32), (0x8b51f9dd : UInt32))).1

/-- Word `i` of 64 bits: words `2 * i` and `2 * i + 1` of 32 bits, the lower one first. -/
def wideWord (words : List UInt32) (i : Nat) : Nat :=
  (words.getD (2 * i) 0).toNat + (words.getD (2 * i + 1) 0).toNat * Nat.pow 2 32

end SignalGraph.Random
