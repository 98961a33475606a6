import AsmLayout.Text.Octets

/-! # Hashes of blocks

A message is filled up to whole blocks, and each block stirs a few words. What the words are in the end is
the hash. The words have 32 or 64 bits.
-/

namespace AsmLayout.Host.Checksum

open Text (Octets)

/-- A number as so many bytes, the highest one first. -/
def highFirst (count n : Nat) : List UInt8 :=
  (List.range count).reverse.map fun i => UInt8.ofNat (n >>> (8 * i))

/-- The number of some bytes, the highest one first. -/
def ofHighFirst (bytes : List UInt8) : Nat :=
  bytes.foldl (fun n byte => n * 256 + byte.toNat) 0

/-- A message filled up to blocks of a size. Its length in bits stands at the end, in the order of bytes that
    `order` makes from the one with the highest first. -/
def padded (size lengthSize : Nat) (order : List UInt8 → List UInt8) (message : List UInt8) :
    List UInt8 :=
  let rest := (message.length + 1 + lengthSize) % size
  let zeros := (size - rest) % size
  message ++ 0x80 :: List.replicate zeros 0 ++ order (highFirst lengthSize (8 * message.length))

def pieces (size : Nat) : (fuel : Nat) → List UInt8 → List (List UInt8)
  | 0, _ | _, [] => []
  | fuel + 1, bytes => bytes.take size :: pieces size fuel (bytes.drop size)

/-- The words of a piece, of so many bytes each. -/
def wordsOf (size : Nat) (order : List UInt8 → List UInt8) (bytes : List UInt8) : List Nat :=
  (pieces size bytes.length bytes).map fun word => ofHighFirst (order word)

def messageOf (text : Octets) : List UInt8 :=
  text.map Text.byteOf

def hexText (bytes : List UInt8) : Octets :=
  bytes.flatMap fun byte =>
    (Nat.toDigits 16 (byte.toNat / 16)) ++ Nat.toDigits 16 (byte.toNat % 16)

/-- Turn a word of 32 bits to the left. -/
def turn (word : UInt32) (amount : Nat) : UInt32 :=
  word <<< UInt32.ofNat amount ||| word >>> UInt32.ofNat (32 - amount)

/-! ## Four words, the lowest byte first -/

/-- What is added in each step: the digits of the sines. -/
def sineWords : List UInt32 :=
  [0xD76AA478, 0xE8C7B756, 0x242070DB, 0xC1BDCEEE, 0xF57C0FAF, 0x4787C62A, 0xA8304613, 0xFD469501,
   0x698098D8, 0x8B44F7AF, 0xFFFF5BB1, 0x895CD7BE, 0x6B901122, 0xFD987193, 0xA679438E, 0x49B40821,
   0xF61E2562, 0xC040B340, 0x265E5A51, 0xE9B6C7AA, 0xD62F105D, 0x02441453, 0xD8A1E681, 0xE7D3FBC8,
   0x21E1CDE6, 0xC33707D6, 0xF4D50D87, 0x455A14ED, 0xA9E3E905, 0xFCEFA3F8, 0x676F02D9, 0x8D2A4C8A,
   0xFFFA3942, 0x8771F681, 0x6D9D6122, 0xFDE5380C, 0xA4BEEA44, 0x4BDECFA9, 0xF6BB4B60, 0xBEBFBC70,
   0x289B7EC6, 0xEAA127FA, 0xD4EF3085, 0x04881D05, 0xD9D4D039, 0xE6DB99E5, 0x1FA27CF8, 0xC4AC5665,
   0xF4292244, 0x432AFF97, 0xAB9423A7, 0xFC93A039, 0x655B59C3, 0x8F0CCC92, 0xFFEFF47D, 0x85845DD1,
   0x6FA87E4F, 0xFE2CE6E0, 0xA3014314, 0x4E0811A1, 0xF7537E82, 0xBD3AF235, 0x2AD7D2BB, 0xEB86D391]

/-- How far a step turns. -/
def sineTurns : List (List Nat) :=
  [[7, 12, 17, 22], [5, 9, 14, 20], [4, 11, 16, 23], [6, 10, 15, 21]]

abbrev Quad := UInt32 × UInt32 × UInt32 × UInt32

/-- A step with a word of the block. -/
def stepMd5 (block : Array UInt32) (state : Quad) (entry : UInt32 × Nat) : Quad :=
  let (a, b, c, d) := state
  let (sine, i) := entry
  let (mixed, place) : UInt32 × Nat := match i / 16 with
    | 0 => ((b &&& c) ||| (~~~b &&& d), i)
    | 1 => ((d &&& b) ||| (~~~d &&& c), (5 * i + 1) % 16)
    | 2 => (b ^^^ c ^^^ d, (3 * i + 5) % 16)
    | _ => (c ^^^ (b ||| ~~~d), 7 * i % 16)
  let amount := (sineTurns.getD (i / 16) []).getD (i % 4) 0
  (d, b + turn (a + mixed + sine + block.getD place 0) amount, b, c)

def md5 (text : Octets) : Octets :=
  let message := padded 64 8 List.reverse (messageOf text)
  let start : Quad := (0x67452301, 0xEFCDAB89, 0x98BADCFE, 0x10325476)
  let (a, b, c, d) := (pieces 64 message.length message).foldl (fun state block =>
    let words := (wordsOf 4 List.reverse block).map UInt32.ofNat
    let (a, b, c, d) := sineWords.zipIdx.foldl (stepMd5 words.toArray) state
    (state.1 + a, state.2.1 + b, state.2.2.1 + c, state.2.2.2 + d)) start
  hexText ([a, b, c, d].flatMap fun word => (highFirst 4 word.toNat).reverse)

/-! ## Five words, the highest byte first -/

/-- The words of a block and those made of them, the last one first. -/
def extendSha1 : (count : Nat) → List UInt32 → List UInt32
  | 0, words => words
  | n + 1, words =>
    let mixed := words.getD 2 0 ^^^ words.getD 7 0 ^^^ words.getD 13 0 ^^^ words.getD 15 0
    extendSha1 n (turn mixed 1 :: words)

def stepSha1 (state : UInt32 × Quad) (entry : UInt32 × Nat) : UInt32 × Quad :=
  let (a, b, c, d, e) := state
  let (word, i) := entry
  let (mixed, constant) : UInt32 × UInt32 := match i / 20 with
    | 0 => ((b &&& c) ||| (~~~b &&& d), 0x5A827999)
    | 1 => (b ^^^ c ^^^ d, 0x6ED9EBA1)
    | 2 => ((b &&& c) ||| (b &&& d) ||| (c &&& d), 0x8F1BBCDC)
    | _ => (b ^^^ c ^^^ d, 0xCA62C1D6)
  (turn a 5 + mixed + e + constant + word, a, turn b 30, c, d)

def sha1 (text : Octets) : Octets :=
  let message := padded 64 8 id (messageOf text)
  let start : UInt32 × Quad := (0x67452301, 0xEFCDAB89, 0x98BADCFE, 0x10325476, 0xC3D2E1F0)
  let (a, b, c, d, e) := (pieces 64 message.length message).foldl (fun state block =>
    let words := (wordsOf 4 id block).map UInt32.ofNat
    let (a, b, c, d, e) := (extendSha1 64 words.reverse).reverse.zipIdx.foldl stepSha1 state
    (state.1 + a, state.2.1 + b, state.2.2.1 + c, state.2.2.2.1 + d, state.2.2.2.2 + e)) start
  hexText ([a, b, c, d, e].flatMap fun word => highFirst 4 word.toNat)

/-! ## Eight words of 32 or 64 bits -/

/-- What is added in each step: the first bits of the fractions of the cube roots of the primes. -/
def rootWords : List UInt64 :=
  [0x428A2F98D728AE22, 0x7137449123EF65CD, 0xB5C0FBCFEC4D3B2F, 0xE9B5DBA58189DBBC,
   0x3956C25BF348B538, 0x59F111F1B605D019, 0x923F82A4AF194F9B, 0xAB1C5ED5DA6D8118,
   0xD807AA98A3030242, 0x12835B0145706FBE, 0x243185BE4EE4B28C, 0x550C7DC3D5FFB4E2,
   0x72BE5D74F27B896F, 0x80DEB1FE3B1696B1, 0x9BDC06A725C71235, 0xC19BF174CF692694,
   0xE49B69C19EF14AD2, 0xEFBE4786384F25E3, 0x0FC19DC68B8CD5B5, 0x240CA1CC77AC9C65,
   0x2DE92C6F592B0275, 0x4A7484AA6EA6E483, 0x5CB0A9DCBD41FBD4, 0x76F988DA831153B5,
   0x983E5152EE66DFAB, 0xA831C66D2DB43210, 0xB00327C898FB213F, 0xBF597FC7BEEF0EE4,
   0xC6E00BF33DA88FC2, 0xD5A79147930AA725, 0x06CA6351E003826F, 0x142929670A0E6E70,
   0x27B70A8546D22FFC, 0x2E1B21385C26C926, 0x4D2C6DFC5AC42AED, 0x53380D139D95B3DF,
   0x650A73548BAF63DE, 0x766A0ABB3C77B2A8, 0x81C2C92E47EDAEE6, 0x92722C851482353B,
   0xA2BFE8A14CF10364, 0xA81A664BBC423001, 0xC24B8B70D0F89791, 0xC76C51A30654BE30,
   0xD192E819D6EF5218, 0xD69906245565A910, 0xF40E35855771202A, 0x106AA07032BBD1B8,
   0x19A4C116B8D2D0C8, 0x1E376C085141AB53, 0x2748774CDF8EEB99, 0x34B0BCB5E19B48A8,
   0x391C0CB3C5C95A63, 0x4ED8AA4AE3418ACB, 0x5B9CCA4F7763E373, 0x682E6FF3D6B2B8A3,
   0x748F82EE5DEFB2FC, 0x78A5636F43172F60, 0x84C87814A1F0AB72, 0x8CC702081A6439EC,
   0x90BEFFFA23631E28, 0xA4506CEBDE82BDE9, 0xBEF9A3F7B2C67915, 0xC67178F2E372532B,
   0xCA273ECEEA26619C, 0xD186B8C721C0C207, 0xEADA7DD6CDE0EB1E, 0xF57D4F7FEE6ED178,
   0x06F067AA72176FBA, 0x0A637DC5A2C898A6, 0x113F9804BEF90DAE, 0x1B710B35131C471B,
   0x28DB77F523047D84, 0x32CAAB7B40C72493, 0x3C9EBE0A15C9BEBC, 0x431D67C49C100D4C,
   0x4CC5D4BECB3E42B6, 0x597F299CFC657E2A, 0x5FCB6FAB3AD6FAEC, 0x6C44198C4A475817]

/-- A hash of the family with eight words. -/
structure Sha2 where
  /-- The bits of a word. -/
  width : Nat
  rounds : Nat
  start : List UInt64
  /-- How many bytes of the words are the hash. -/
  size : Nat
  /-- The turns that mix words of the block; the last number of each is a shift. -/
  early : (Nat × Nat × Nat) × (Nat × Nat × Nat)
  /-- The turns that mix the first and the fifth word. -/
  late : (Nat × Nat × Nat) × (Nat × Nat × Nat)
  deriving Repr, DecidableEq

namespace Sha2

/-- The bits of a word that count. -/
def mask (hash : Sha2) (word : UInt64) : UInt64 :=
  if hash.width = 64 then word else word &&& 0xFFFFFFFF

def turnRight (hash : Sha2) (word : UInt64) (amount : Nat) : UInt64 :=
  hash.mask (word >>> UInt64.ofNat amount ||| word <<< UInt64.ofNat (hash.width - amount))

/-- A word mixed by three turns. -/
def mix (hash : Sha2) (turns : Nat × Nat × Nat) (word : UInt64) : UInt64 :=
  hash.turnRight word turns.1 ^^^ hash.turnRight word turns.2.1 ^^^ hash.turnRight word turns.2.2

/-- A word mixed by two turns and a shift. -/
def mixShift (hash : Sha2) (turns : Nat × Nat × Nat) (word : UInt64) : UInt64 :=
  hash.turnRight word turns.1 ^^^ hash.turnRight word turns.2.1 ^^^
    word >>> UInt64.ofNat turns.2.2

/-- The words of a block and those made of them, the last one first. -/
def extend (hash : Sha2) : (count : Nat) → List UInt64 → List UInt64
  | 0, words => words
  | n + 1, words =>
    let word := words.getD 15 0 + hash.mixShift hash.early.1 (words.getD 14 0) + words.getD 6 0 +
      hash.mixShift hash.early.2 (words.getD 1 0)
    extend hash n (hash.mask word :: words)

def step (hash : Sha2) (state : List UInt64) (entry : UInt64 × UInt64) : List UInt64 :=
  match state with
  | [a, b, c, d, e, f, g, h] =>
    let chosen := (e &&& f) ^^^ (~~~e &&& g)
    let most := (a &&& b) ^^^ (a &&& c) ^^^ (b &&& c)
    let one := h + hash.mix hash.late.2 e + chosen + entry.1 + entry.2
    let two := hash.mix hash.late.1 a + most
    [hash.mask (one + two), a, b, c, hash.mask (d + one), e, f, g]
  | state => state

def constants (hash : Sha2) : List UInt64 :=
  (rootWords.take hash.rounds).map fun word => if hash.width = 64 then word else word >>> 32

def block (hash : Sha2) (state : List UInt64) (bytes : List UInt8) : List UInt64 :=
  let words := (wordsOf (hash.width / 8) id bytes).map UInt64.ofNat
  let all := (hash.extend (hash.rounds - 16) words.reverse).reverse
  let stirred := (hash.constants.zip all).foldl hash.step state
  state.zipWith (fun old new => hash.mask (old + new)) stirred

def digest (hash : Sha2) (text : Octets) : Octets :=
  let size := 2 * hash.width
  let message := padded size (hash.width / 4) id (messageOf text)
  let words := (pieces size message.length message).foldl hash.block hash.start
  hexText ((words.flatMap fun word => highFirst (hash.width / 8) word.toNat).take hash.size)

/-- The words to start with are the square roots of the first primes. -/
def sha512 : Sha2 where
  width := 64
  rounds := 80
  size := 64
  start :=
    [0x6A09E667F3BCC908, 0xBB67AE8584CAA73B, 0x3C6EF372FE94F82B, 0xA54FF53A5F1D36F1,
     0x510E527FADE682D1, 0x9B05688C2B3E6C1F, 0x1F83D9ABFB41BD6B, 0x5BE0CD19137E2179]
  early := ((1, 8, 7), (19, 61, 6))
  late := ((28, 34, 39), (14, 18, 41))

/-- It starts with the square roots of the next primes, and the hash is shorter. -/
def sha384 : Sha2 :=
  { sha512 with
    size := 48
    start :=
      [0xCBBB9D5DC1059ED8, 0x629A292A367CD507, 0x9159015A3070DD17, 0x152FECD8F70E5939,
       0x67332667FFC00B31, 0x8EB44A8768581511, 0xDB0C2E0D64F98FA7, 0x47B5481DBEFA4FA4] }

/-- It has words of half the size. -/
def sha256 : Sha2 where
  width := 32
  rounds := 64
  size := 32
  start := sha512.start.map fun (word : UInt64) => word >>> 32
  early := ((7, 18, 3), (17, 19, 10))
  late := ((2, 13, 22), (6, 11, 25))

/-- It starts with the other halves of the words, and the hash is shorter. -/
def sha224 : Sha2 :=
  { sha256 with
    size := 28
    start := sha384.start.map fun (word : UInt64) => word &&& 0xFFFFFFFF }

end Sha2

end AsmLayout.Host.Checksum
