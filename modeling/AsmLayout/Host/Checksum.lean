import AsmLayout.Text.Octets

/-! # Check sums

A check sum is a small number that tells most changes of a text. The cyclic one is the remainder of a
division of polynomials, the others add bytes up.
-/

namespace AsmLayout.Host.Checksum

open Text (Octets)

/-- The polynomial that the cyclic sum divides by, without its highest term. -/
def polynomial : UInt32 := 0x04C11DB7

/-- A remainder with one more bit. -/
def shift (remainder : UInt32) : UInt32 :=
  if remainder &&& 0x80000000 = 0 then remainder <<< 1 else (remainder <<< 1) ^^^ polynomial

/-- A remainder with so many more bits. -/
def shiftBy : Nat → UInt32 → UInt32
  | 0, remainder => remainder
  | n + 1, remainder => shiftBy n (shift remainder)

/-- A remainder with one more byte. -/
def addByte (remainder : UInt32) (c : Char) : UInt32 :=
  shiftBy 8 (remainder ^^^ (UInt32.ofNat c.toNat <<< 24))

/-- The bytes of a number, the lowest first, as far as there are any but zeros. -/
def lengthBytes : (fuel : Nat) → Nat → Octets
  | 0, _ | _, 0 => []
  | fuel + 1, n => Char.ofNat (n % 256) :: lengthBytes fuel (n / 256)

/-- The cyclic sum of a text and its length. -/
def cyclic (text : Octets) : Nat :=
  (~~~((text ++ lengthBytes 8 text.length).foldl addByte 0)).toNat

/-- The sum of 16 bits that goes round by one bit before each byte. -/
def rotating (text : Octets) : Nat :=
  text.foldl (fun sum c => (sum / 2 + sum % 2 * 32768 + c.toNat) % 65536) 0

/-- The sum of all bytes, folded into 16 bits. -/
def folded (text : Octets) : Nat :=
  let sum := text.foldl (fun sum c => sum + c.toNat) 0 % 0x100000000
  let once := sum % 65536 + sum / 65536
  once % 65536 + once / 65536

end AsmLayout.Host.Checksum
