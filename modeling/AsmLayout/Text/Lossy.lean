/-! # Text from bytes that may not be UTF-8

Every maximal start of a well-formed sequence that does not go on, and every other byte that is out of
place, becomes one replacement character.
-/

namespace AsmLayout.Text

def replacement : Char := '\ufffd'

/-- For the first byte of a sequence of several: how many bytes follow, the range of the next one, and
    the bits that the first one brings. -/
def leadByte? (byte : UInt8) : Option (Nat × UInt8 × UInt8 × Nat) :=
  if 0xC2 ≤ byte && byte ≤ 0xDF then some (1, 0x80, 0xBF, byte.toNat - 0xC0)
  else if byte = 0xE0 then some (2, 0xA0, 0xBF, 0)
  else if byte = 0xED then some (2, 0x80, 0x9F, 0xD)
  else if 0xE1 ≤ byte && byte ≤ 0xEF then some (2, 0x80, 0xBF, byte.toNat - 0xE0)
  else if byte = 0xF0 then some (3, 0x90, 0xBF, 0)
  else if 0xF1 ≤ byte && byte ≤ 0xF3 then some (3, 0x80, 0xBF, byte.toNat - 0xF0)
  else if byte = 0xF4 then some (3, 0x80, 0x8F, 4)
  else none

/-- Read the bytes that follow a first one: the character, and how many bytes were read. -/
def continued : (missing : Nat) → (low high : UInt8) → (bits : Nat) → List UInt8 → Char × Nat
  | 0, _, _, bits, _ => (Char.ofNat bits, 0)
  | _ + 1, _, _, _, [] => (replacement, 0)
  | missing + 1, low, high, bits, byte :: rest =>
    if low ≤ byte && byte ≤ high then
      let (c, used) := continued missing 0x80 0xBF (bits * 64 + byte.toNat % 64) rest
      (c, used + 1)
    else (replacement, 0)

def decodeLossy : List UInt8 → List Char
  | [] => []
  | byte :: rest =>
    if byte < 0x80 then Char.ofNat byte.toNat :: decodeLossy rest
    else match leadByte? byte with
      | none => replacement :: decodeLossy rest
      | some (missing, low, high, bits) =>
        let (c, used) := continued missing low high bits rest
        c :: decodeLossy (rest.drop used)
termination_by bytes => bytes.length
decreasing_by
  · simp
  · simp
  · simp only [List.length_drop, List.length_cons]
    omega

/-- Decode bytes to a string. -/
def lossyText (bytes : List UInt8) : String :=
  String.ofList (decodeLossy bytes)

def bytesOf (text : String) : List UInt8 :=
  text.toUTF8.data.toList

end AsmLayout.Text
