/-! # SHA3-256

The sponge over the permutation Keccak-f[1600] with a rate of 136 bytes and a digest of 32. A state
has 25 lanes of 64 bits; lane `x + 5 * y` stands in column `x` and row `y`.
-/

namespace AsmLayout.Random.Digest

abbrev Lanes := Vector UInt64 25

/-- The lane in column `x` and row `y`, both taken modulo five. -/
def lane (a : Lanes) (x y : Nat) : UInt64 :=
  a.get ⟨x % 5 + 5 * (y % 5), by omega⟩

/-- Build a state from the value of each column and row. -/
def ofLanes (f : Nat → Nat → UInt64) : Lanes :=
  Vector.ofFn fun i => f (i.val % 5) (i.val / 5)

/-- Rotate to the left, for amounts below 64. -/
def rotate (word : UInt64) (amount : UInt64) : UInt64 :=
  if amount = 0 then word else word <<< amount ||| word >>> (64 - amount)

/-- Rotation amount of each lane. -/
def rotations : Vector UInt64 25 :=
  #v[0, 1, 62, 28, 27, 36, 44, 6, 55, 20, 3, 10, 43, 25, 39, 41, 45, 15, 21, 8, 18, 2, 61, 56, 14]

/-- One constant for each of the 24 rounds. -/
def roundConstants : List UInt64 :=
  [0x0000000000000001, 0x0000000000008082, 0x800000000000808A, 0x8000000080008000,
   0x000000000000808B, 0x0000000080000001, 0x8000000080008081, 0x8000000000008009,
   0x000000000000008A, 0x0000000000000088, 0x0000000080008009, 0x000000008000000A,
   0x000000008000808B, 0x800000000000008B, 0x8000000000008089, 0x8000000000008003,
   0x8000000000008002, 0x8000000000000080, 0x000000000000800A, 0x800000008000000A,
   0x8000000080008081, 0x8000000000008080, 0x0000000080000001, 0x8000000080008008]

/-- Parity of a column. -/
def parity (a : Lanes) (x : Nat) : UInt64 :=
  lane a x 0 ^^^ lane a x 1 ^^^ lane a x 2 ^^^ lane a x 3 ^^^ lane a x 4

/-- Add to every lane the parities of two neighbouring columns. -/
def theta (a : Lanes) : Lanes :=
  let parities := Vector.ofFn fun (x : Fin 5) => parity a x
  ofLanes fun x y =>
    lane a x y ^^^ parities.get ⟨(x + 4) % 5, by omega⟩ ^^^
      rotate (parities.get ⟨(x + 1) % 5, by omega⟩) 1

/-- Rotate the lanes and move them to their new places. -/
def rhoPi (a : Lanes) : Lanes :=
  ofLanes fun x y => rotate (lane a (x + 3 * y) x) (lane rotations (x + 3 * y) x)

/-- Combine each lane with the two that follow it in its row. -/
def chi (a : Lanes) : Lanes :=
  ofLanes fun x y => lane a x y ^^^ (~~~lane a (x + 1) y &&& lane a (x + 2) y)

def round (a : Lanes) (constant : UInt64) : Lanes :=
  let a := chi (rhoPi (theta a))
  a.set 0 (a[0] ^^^ constant)

/-- The permutation Keccak-f[1600]. -/
def permute (a : Lanes) : Lanes :=
  roundConstants.foldl round a

/-- A word from its bytes, the lowest first. -/
def wordOfBytes (bytes : List UInt8) : UInt64 :=
  bytes.foldr (fun byte word => word <<< 8 ||| byte.toUInt64) 0

/-- Bytes taken in by one application of the permutation. -/
def rate : Nat := 136

/-- Add a block of up to `rate` bytes to the state and permute it. -/
def absorb (a : Lanes) (block : List UInt8) : Lanes :=
  permute (Vector.ofFn fun i =>
    a[i] ^^^ wordOfBytes ((block.drop (8 * i.val)).take 8))

/-- A last block shorter than `rate`, filled up with a domain byte, zeros and a closing bit. -/
def padded (block : List UInt8) : List UInt8 :=
  if block.length + 1 = rate then block ++ [0x86]
  else block ++ 0x06 :: List.replicate (rate - 2 - block.length) 0 ++ [0x80]

/-- Absorb a message block by block. -/
def absorbAll (a : Lanes) (message : List UInt8) : Lanes :=
  if _h : message.length < rate then absorb a (padded message)
  else absorbAll (absorb a (message.take rate)) (message.drop rate)
termination_by message.length
decreasing_by
  simp only [rate, List.length_drop] at *
  omega

/-- The 32 bytes of the SHA3-256 digest. -/
def sha3_256 (message : List UInt8) : Vector UInt8 32 :=
  let a := absorbAll (Vector.replicate 25 0) message
  Vector.ofFn fun i => (a.get ⟨i.val / 8, by omega⟩ >>> (8 * (i.val % 8)).toUInt64).toUInt8

end AsmLayout.Random.Digest
