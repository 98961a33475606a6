/-! # Drawing from a stream of words

A generator hands out 32-bit and 64-bit words. Ranges, coins and permutations are drawn from it in a
fixed way, so equal generators lead to equal draws.
-/

namespace AsmLayout.Random

/-- A source of words. Each draw gives the word and the source that comes after it. -/
class Generator (G : Type) where
  next32 : G → UInt32 × G
  next64 : G → UInt64 × G

open Generator

variable {G : Type} [Generator G]

/-- Map a list in order, each step with the generator that the previous one leaves. -/
def traverse {α β : Type} (step : α → G → β × G) : List α → G → List β × G
  | [], g => ([], g)
  | x :: xs, g =>
    let (y, g) := step x g
    let (ys, g) := traverse step xs g
    (y :: ys, g)

/-- A number below `range` from words below `size`. A word times the range is cut at `size`; where
    the low part may hide a carry, one more word decides it. -/
def scaled (size : Nat) (draw : G → Nat × G) (range : Nat) (g : G) : Nat × G :=
  let (word, g) := draw g
  let high := word * range / size
  let low := word * range % size
  if size - range < low then
    let (word, g) := draw g
    if size ≤ low + word * range / size then (high + 1, g) else (high, g)
  else (high, g)

/-- The number of 32-bit words. -/
def size32 : Nat := 0x100000000

/-- The number of 64-bit words. -/
def size64 : Nat := 0x10000000000000000

/-- A number below `range` from 32-bit words. -/
def below32 (range : Nat) (g : G) : Nat × G :=
  scaled size32 (fun g => let (word, g) := next32 g; (word.toNat, g)) range g

/-- A number below `range` from 64-bit words. -/
def below64 (range : Nat) (g : G) : Nat × G :=
  scaled size64 (fun g => let (word, g) := next64 g; (word.toNat, g)) range g

/-- A half-open range of numbers. -/
structure Interval where
  low : Nat
  high : Nat
  deriving Repr, DecidableEq

/-- Whether a range holds no number. -/
def Interval.isEmpty (range : Interval) : Bool :=
  range.high ≤ range.low

/-- A number of a range that is not empty. -/
def inInterval (range : Interval) (g : G) : Nat × G :=
  let (offset, g) := below64 (range.high - range.low) g
  (range.low + offset, g)

/-- A fair coin. -/
def coin (g : G) : Bool × G :=
  let (word, g) := next64 g
  (word.toNat < size64 / 2, g)

/-- Multiply `product` by consecutive numbers from `next` on while it stays a 32-bit word, and
    count the factors. The fuel of 32 is never used up: every factor is at least two. -/
def factorRun : (fuel product next count : Nat) → Nat × Nat
  | 0, product, _, count => (product, count)
  | fuel + 1, product, next, count =>
    if product * next < size32 then factorRun fuel (product * next) (next + 1) (count + 1)
    else (product, count)

/-- Choices below `size`, `size + 1` and so on, `count` of them. One 32-bit draw is divided up among
    as many consecutive choices as fit: `chunk` is what is left of it, for `remaining` choices. -/
def choices : (count size chunk remaining : Nat) → G → List Nat × G
  | 0, _, _, _, g => ([], g)
  | count + 1, size, chunk, remaining, g =>
    let (chunk, remaining, g) :=
      if remaining = 0 then
        let (bound, factors) := factorRun 32 size (size + 1) 1
        let (chunk, g) := below32 bound g
        (chunk, factors, g)
      else (chunk, remaining, g)
    if remaining = 1 then
      let (rest, g) := choices count (size + 1) 0 0 g
      (chunk :: rest, g)
    else
      let (rest, g) := choices count (size + 1) (chunk / size) (remaining - 1) g
      (chunk % size :: rest, g)

/-- For every position of a list of length `n` the earlier position that it is swapped with. -/
def swapTargets (n : Nat) (g : G) : List Nat × G :=
  if n ≤ 1 then ([], g) else choices n 1 0 1 g

/-- Swap the positions from `i` on with their targets, in order. -/
def applySwaps {α : Type} (i : Nat) (xs : Array α) : List Nat → Array α
  | [] => xs
  | target :: targets => applySwaps (i + 1) (xs.swapIfInBounds i target) targets

/-- Permute a list. What is drawn depends on its length alone. -/
def shuffle {α : Type} (xs : List α) (g : G) : List α × G :=
  let (targets, g) := swapTargets xs.length g
  ((applySwaps 0 xs.toArray targets).toList, g)

end AsmLayout.Random
