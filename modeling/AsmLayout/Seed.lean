import AsmLayout.Random.Digest
import AsmLayout.Random.Keystream
import AsmLayout.Error

/-! # Seeds

Thirty-two bytes that determine every draw of a run, and their hexadecimal text.
-/

namespace AsmLayout

/-- The 256 bits that determine a run. -/
structure Seed where
  bytes : List UInt8
  length_bytes : bytes.length = 32
  deriving DecidableEq

namespace Seed

/-- The value of a hexadecimal digit of either case. -/
def digitValue? (c : Char) : Option UInt8 :=
  if '0' ≤ c ∧ c ≤ '9' then some (UInt8.ofNat (c.toNat - '0'.toNat))
  else if 'a' ≤ c ∧ c ≤ 'f' then some (UInt8.ofNat (c.toNat - 'a'.toNat + 10))
  else if 'A' ≤ c ∧ c ≤ 'F' then some (UInt8.ofNat (c.toNat - 'A'.toNat + 10))
  else none

/-- The digit of a value below 16, in lower case. -/
def digitChar (value : UInt8) : Char :=
  if value < 10 then Char.ofNat ('0'.toNat + value.toNat)
  else Char.ofNat ('a'.toNat + (value.toNat - 10))

/-- Bytes from pairs of digits, the upper half first. -/
def bytesOfDigits? : List Char → Option (List UInt8)
  | [] => some []
  | [_] => none
  | high :: low :: rest =>
    match digitValue? high, digitValue? low, bytesOfDigits? rest with
    | some h, some l, some bytes => some ((h * 16 + l) :: bytes)
    | _, _, _ => none

def digitsOfBytes (bytes : List UInt8) : List Char :=
  bytes.flatMap fun byte => [digitChar (byte / 16), digitChar (byte % 16)]

/-- What stands after one leading `0x`. -/
def dropMarker : List Char → List Char
  | '0' :: 'x' :: digits => digits
  | digits => digits

/-- Read 64 hexadecimal digits, with or without a leading `0x`. The length counts bytes of UTF-8 and
    is checked before the digits are. -/
def ofHex (text : String) : Except Error Seed :=
  let digits := dropMarker text.toList
  let length := (String.ofList digits).utf8ByteSize
  if length ≠ 64 then .error (.invalidSeedLength length)
  else match bytesOfDigits? digits with
    | none => .error .invalidSeedHex
    | some bytes =>
      if h : bytes.length = 32 then .ok ⟨bytes, h⟩ else .error .invalidSeedHex

/-- The digits of a seed after `0x`. -/
def toHex (seed : Seed) : String :=
  String.ofList ('0' :: 'x' :: digitsOfBytes seed.bytes)

/-- Sets the words drawn here apart from those that the same seed gives elsewhere. -/
def domainTag : List UInt8 :=
  "ASMRAND_LAYOUT_RANDOMIZATION".toUTF8.data.toList

/-- The generator of a run: the stream keyed by the digest of the tag and the seed. -/
def generator (seed : Seed) : Random.Keystream :=
  .start (Random.Digest.sha3_256 (domainTag ++ seed.bytes))

/-- The seed whose bytes are all zero. -/
def zero : Seed :=
  ⟨List.replicate 32 0, List.length_replicate⟩

end Seed

end AsmLayout
