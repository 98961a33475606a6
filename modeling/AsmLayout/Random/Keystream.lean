import AsmLayout.Random.Generator

/-! # ChaCha12 keystream

The stream cipher with twelve rounds as a source of words: the words of block 0, block 1 and so on,
none of them skipped.
-/

namespace AsmLayout.Random

namespace Keystream

/-- The 16 words of the cipher's state. -/
abbrev Block := Vector UInt32 16

/-- Rotate to the left, for amounts between 1 and 31. -/
def rotate (word amount : UInt32) : UInt32 :=
  word <<< amount ||| word >>> (32 - amount)

/-- The quarter round on the words at four places. -/
def quarterRound (s : Block) (a b c d : Fin 16) : Block :=
  let wa := s[a] + s[b]
  let wd := rotate (s[d] ^^^ wa) 16
  let wc := s[c] + wd
  let wb := rotate (s[b] ^^^ wc) 12
  let wa := wa + wb
  let wd := rotate (wd ^^^ wa) 8
  let wc := wc + wd
  let wb := rotate (wb ^^^ wc) 7
  (((s.set a wa).set b wb).set c wc).set d wd

/-- A round on the columns and a round on the diagonals. -/
def doubleRound (s : Block) : Block :=
  let s := quarterRound s 0 4 8 12
  let s := quarterRound s 1 5 9 13
  let s := quarterRound s 2 6 10 14
  let s := quarterRound s 3 7 11 15
  let s := quarterRound s 0 5 10 15
  let s := quarterRound s 1 6 11 12
  let s := quarterRound s 2 7 8 13
  quarterRound s 3 4 9 14

/-- The state before the rounds: four constants, the key, the block counter and a stream number of
    zero. -/
def initial (key : Vector UInt32 8) (counter : UInt64) : Block :=
  (#v[0x61707865, 0x3320646E, 0x79622D32, 0x6B206574] : Vector UInt32 4) ++ key ++
    (#v[counter.toUInt32, (counter >>> 32).toUInt32, 0, 0] : Vector UInt32 4)

def block (key : Vector UInt32 8) (counter : UInt64) : Block :=
  let start := initial key counter
  let mixed := (List.range 6).foldl (fun s _ => doubleRound s) start
  Vector.zipWith (· + ·) mixed start

/-- A key of eight words from 32 bytes, each word's lowest byte first. -/
def keyOfBytes (bytes : Vector UInt8 32) : Vector UInt32 8 :=
  Vector.ofFn fun i =>
    (bytes.get ⟨4 * i.val, by omega⟩).toUInt32 |||
    (bytes.get ⟨4 * i.val + 1, by omega⟩).toUInt32 <<< 8 |||
    (bytes.get ⟨4 * i.val + 2, by omega⟩).toUInt32 <<< 16 |||
    (bytes.get ⟨4 * i.val + 3, by omega⟩).toUInt32 <<< 24

end Keystream

/-- A place in the stream of a key. -/
structure Keystream where
  key : Vector UInt32 8
  /-- Number of the next block. -/
  counter : UInt64
  /-- The words of the previous block that are still to come. -/
  unread : List UInt32
  deriving Repr, DecidableEq

namespace Keystream

/-- The start of the stream of a key. -/
def start (bytes : Vector UInt8 32) : Keystream :=
  { key := keyOfBytes bytes, counter := 0, unread := [] }

def next32 (stream : Keystream) : UInt32 × Keystream :=
  match stream.unread with
  | word :: rest => (word, { stream with unread := rest })
  | [] =>
    let words := block stream.key stream.counter
    (words[0], { stream with counter := stream.counter + 1, unread := words.toList.tail })

/-- The next two words as one, the lower half first. -/
def next64 (stream : Keystream) : UInt64 × Keystream :=
  let (low, stream) := stream.next32
  let (high, stream) := stream.next32
  (low.toUInt64 ||| high.toUInt64 <<< 32, stream)

instance : Generator Keystream where
  next32 := next32
  next64 := next64

end Keystream

end AsmLayout.Random
