import AsmLayout.Host.Shell.Formatting

/-! # Numbers of 64 bits

A number is handled by its exact value where that counts: when it is read, written, cut to a whole number
or divided with a remainder.
-/

namespace AsmLayout.Host.Awk

open Text (Octets)

/-- Twice the greatest fraction and one: the units of a number that is not tiny start here. -/
def fullUnits : Nat := 0x10000000000000

/-- The number of a sign and a size in the format of 64 bits. -/
def toFloat (number : Floating) : Float :=
  let sign : UInt64 := if number.negative then 0x8000000000000000 else 0
  match number.size with
  | .infinite => Float.ofBits (sign ||| 0x7FF0000000000000)
  | .undefined => Float.ofBits (sign ||| 0x7FF8000000000000)
  | .finite units exponent =>
    if units < fullUnits then Float.ofBits (sign ||| UInt64.ofNat units)
    else
      Float.ofBits (sign ||| (UInt64.ofNat (exponent + 1075).toNat <<< 52) |||
        UInt64.ofNat (units % fullUnits))

/-- The sign and the size of a number. What is no number counts as negative. -/
def ofFloat (x : Float) : Floating :=
  let bits := x.toBits.toNat
  let field := bits / fullUnits % 2048
  let fraction := bits % fullUnits
  if field = 2047 then
    if fraction = 0 then ⟨bits.testBit 63, .infinite⟩ else ⟨true, .undefined⟩
  else if field = 0 then ⟨bits.testBit 63, .finite fraction (-1074)⟩
  else ⟨bits.testBit 63, .finite (fullUnits + fraction) (field - 1075)⟩

/-- A whole number beyond all that can be counted with. -/
def beyond : Int := 0x1000000000000000000

/-- A number without its fraction. -/
def wholePart (x : Float) : Int :=
  let number := ofFloat x
  let size : Int := match number.size with
    | .finite units exponent =>
      if 0 ≤ exponent then (units <<< exponent.toNat : Nat) else (units >>> (-exponent).toNat : Nat)
    | .infinite => beyond
    | .undefined => 0
  if number.negative then -size else size

/-- The whole number that a number is, if it is one. -/
def whole? (x : Float) : Option Int :=
  match (ofFloat x).size with
  | .finite units exponent =>
    let cut := (-exponent).toNat
    if 0 ≤ exponent || units >>> cut <<< cut = units then some (wholePart x) else none
  | _ => none

/-- What is left of a number when another one is taken away as often as possible. -/
def remainder (x y : Float) : Float :=
  match (ofFloat x).size, (ofFloat y).size with
  | .finite m e, .finite n f =>
    if n = 0 then 0.0 / 0.0
    else
      let least := min e f
      let rest := (m <<< (e - least).toNat) % (n <<< (f - least).toNat)
      let (top, bottom) := Floating.quotientOf Floating.twos rest least
      toFloat ⟨(ofFloat x).negative, (Floating.ofQuotient .double top bottom).1⟩
  | .finite _ _, .infinite => x
  | _, _ => 0.0 / 0.0

/-- Whether a character is a blank between numbers. -/
def isSpace (c : Char) : Bool :=
  c == ' ' || ('\t' ≤ c && c ≤ '\r')

/-- Whether a text starts with a minus sign, and what is behind its sign. -/
def signAt (text : Octets) : Bool × Octets :=
  match text with
  | '-' :: rest => (true, rest)
  | '+' :: rest => (false, rest)
  | rest => (false, rest)

/-- The number at the front of a text; zero if there is none. -/
def readNumber (text : Octets) : Float :=
  let (negative, unsigned) := signAt (text.dropWhile isSpace)
  match Floating.unsignedAt .double unsigned with
  | some (size, _, _) => toFloat ⟨negative, size⟩
  | none => 0.0

/-- Whether a character can start a number from outside, or end it. -/
def isBorder (c : Char) : Bool :=
  c.isDigit || c == '.'

/-- The number that a text from outside stands for, if it looks like one. -/
def looksLike? (text : Octets) : Option Float :=
  let (negative, unsigned) := signAt (text.dropWhile isSpace)
  let last? := (unsigned.reverse.dropWhile isSpace).head?
  if !unsigned.head?.any isBorder || !last?.any isBorder then none
  else
    match Floating.unsignedAt .double unsigned with
    | some (size, _, behind) => if behind.all isSpace then some (toFloat ⟨negative, size⟩) else none
    | none => none

/-- The decimal number at the front of a text, and what follows it. -/
def literalAt? (text : Octets) : Option (Float × Octets) :=
  (Floating.digitsAt .double 10 text).map fun (size, _, behind) => (toFloat ⟨false, size⟩, behind)

/-- How a value shall be laid out, and the letter that tells it. Stars are yet to be filled in. -/
structure Directive where
  flags : List Char
  /-- A number, or the next argument. -/
  width : Option Nat
  precision : Option (Option Nat)
  letter : Char
  deriving Repr, DecidableEq

/-- The number at the front of a format, none for a star, and what follows it. -/
def countAt (format : Octets) : Option Nat × Octets :=
  match format with
  | '*' :: rest => (none, rest)
  | format =>
    let (n, rest) := Arithmetic.digits 10 format
    (some n, rest)

/-- The directive behind a percent sign, and what follows it. -/
def directiveAt (format : Octets) : Directive × Octets :=
  let flags := format.takeWhile fun c => "-+ #0".toList.contains c
  let (width, rest) := countAt (format.drop flags.length)
  let (precision, rest) : Option (Option Nat) × Octets := match rest with
    | '.' :: rest =>
      let (n, rest) := countAt rest
      (some n, rest)
    | rest => (none, rest)
  let rest := rest.dropWhile fun c => c == 'l' || c == 'h'
  (⟨flags, width, precision, rest.headD '\x00'⟩, rest.drop 1)

/-- The greatest whole number that can be written. -/
def greatestWritten : Int := 0xFFFFFFFFFFFFFFFF

/-- A number in the way that a layout and a letter tell, if the letter is for numbers. -/
def layOutNumber? (layout : Layout) (letter : Char) (x : Float) : Option Octets :=
  let n := wholePart x
  let least : Int := -0x7FFFFFFFFFFFFFFF
  match letter with
  | 'd' | 'i' => some (layout.integer (max least (min n greatestWritten)))
  | 'o' | 'u' | 'x' | 'X' =>
    let n := if n < 0 then max n least % 0x10000000000000000 else min n greatestWritten
    some (layout.natural letter n.toNat)
  | 'e' | 'E' | 'f' | 'F' | 'g' | 'G' | 'a' | 'A' =>
    some (layout.floating .double letter (ofFloat x))
  | _ => none

/-- A number in the way that the first directive of a format tells. -/
def formatNumber (x : Float) : (fuel : Nat) → (format : Octets) → Octets
  | 0, _ | _, [] => []
  | fuel + 1, '%' :: '%' :: rest => '%' :: formatNumber x fuel rest
  | _ + 1, '%' :: rest =>
    let (directive, behind) := directiveAt rest
    let layout : Layout :=
      { flags := directive.flags, width := directive.width.getD 0
        precision := directive.precision.join }
    (layOutNumber? layout directive.letter x).getD [] ++ behind
  | fuel + 1, c :: rest => c :: formatNumber x fuel rest

/-- The text of a number: a whole number by its digits, any other one in a format. -/
def numberText (format : Octets) (x : Float) : Octets :=
  match whole? x with
  | some n =>
    if -0x8000000000000000 ≤ n && n ≤ 0x10000000000000000 then
      Text.signedDecimal (min n greatestWritten)
    else formatNumber x (format.length + 1) format
  | none => formatNumber x (format.length + 1) format

end AsmLayout.Host.Awk
