import AsmLayout.Text.Lossy

/-! # Bytes as characters

Programs that know nothing of encodings handle bytes. A byte is held as the character of its number, so
that a text of such characters is one byte for each character.
-/

namespace AsmLayout.Text

/-- A sequence of bytes, each as the character of its number. -/
abbrev Octets := List Char

/-- The hash of a sequence of bytes comes from those of its characters. -/
instance : Hashable Octets :=
  @instHashableList Char instHashableChar

/-- The byte that a character stands for. -/
def byteOf (c : Char) : UInt8 :=
  UInt8.ofNat c.toNat

/-- The character that stands for a byte. -/
def octet (byte : UInt8) : Char :=
  Char.ofNat byte.toNat

/-- The bytes of a text in UTF-8. -/
def octets (text : String) : Octets :=
  (bytesOf text).map octet

/-- The text of bytes in UTF-8. -/
def textOf (bytes : Octets) : String :=
  lossyText (bytes.map byteOf)

def octetsOfArray (bytes : ByteArray) : Octets :=
  bytes.data.toList.map octet

def arrayOf (bytes : Octets) : ByteArray :=
  ⟨(bytes.map byteOf).toArray⟩

/-- The decimal digits of a number. -/
def decimal (n : Nat) : Octets :=
  (toString n).toList

def signedDecimal (n : Int) : Octets :=
  (toString n).toList

/-- The pieces between the occurrences of a character. -/
def splitAtChar (separator : Char) : Octets → List Octets
  | [] => [[]]
  | c :: rest =>
    match splitAtChar separator rest with
    | [] => [[c]]
    | piece :: others => if c = separator then [] :: piece :: others else (c :: piece) :: others

/-- The lines of a text without their line feeds; a line feed at the end starts no further line. -/
def lineList (bytes : Octets) : List Octets :=
  let pieces := splitAtChar '\n' bytes
  if pieces.getLast? = some [] then pieces.dropLast else pieces

def joinWith (separator : Char) (pieces : List Octets) : Octets :=
  [separator].intercalate pieces

/-- Whether a list occurs inside another one. -/
def occursIn (part : Octets) : Octets → Bool
  | [] => part.isEmpty
  | c :: rest => part.isPrefixOf (c :: rest) || occursIn part rest

end AsmLayout.Text
