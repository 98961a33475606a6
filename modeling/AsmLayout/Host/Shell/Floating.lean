import AsmLayout.Host.Shell.Arithmetic

/-! # Numbers with a fraction

A number is read as a quotient, rounded to so many binary digits, and written with so many decimal ones. All
steps are exact but for the two roundings, of which a half goes to the even neighbour.
-/

namespace AsmLayout.Host

open Text (Octets)

/-- How numbers are held: with so many binary digits, in units of at least some power of two, and below
    another one. -/
structure FloatFormat where
  bits : Nat
  least : Int
  greatest : Int
  deriving Repr, DecidableEq

def FloatFormat.double : FloatFormat := ⟨53, -1074, 1024⟩

def FloatFormat.extended : FloatFormat := ⟨64, -16445, 16384⟩

inductive Magnitude where
  /-- A number of units that are a power of two. -/
  | finite (units : Nat) (exponent : Int)
  | infinite
  | undefined
  deriving Repr, DecidableEq

structure Floating where
  negative : Bool
  size : Magnitude
  deriving Repr, DecidableEq

namespace Floating

def twos (n : Nat) : Nat :=
  1 <<< n

def tens : Nat → Nat
  | 0 => 1
  | n + 1 => 10 * tens n

def roundQuotient (n d : Nat) : Nat :=
  let quotient := n / d
  let twice := 2 * (n % d)
  if d < twice || (twice = d && quotient % 2 = 1) then quotient + 1 else quotient

/-- The quotient times a power of two, rounded to a whole number. -/
def scaleByTwos (n d : Nat) (exponent : Int) : Nat :=
  if 0 ≤ exponent then roundQuotient (n * twos exponent.toNat) d
  else roundQuotient n (d * twos (-exponent).toNat)

/-- The quotient times a power of ten, rounded to a whole number. -/
def scaleByTens (n d : Nat) (exponent : Int) : Nat :=
  if 0 ≤ exponent then roundQuotient (n * tens exponent.toNat) d
  else roundQuotient n (d * tens (-exponent).toNat)

/-- A quotient in a format, and whether it is out of its range. -/
def ofQuotient (format : FloatFormat) (n d : Nat) : Magnitude × Bool :=
  if n = 0 then (.finite 0 0, false)
  else
    let guess : Int := (n.log2 : Int) - d.log2 - format.bits
    let exponent := max format.least
      (if twos format.bits ≤ scaleByTwos n d (-guess) then guess + 1 else guess)
    let units := scaleByTwos n d (-exponent)
    let (units, exponent) := if units = twos format.bits then (units / 2, exponent + 1)
      else (units, exponent)
    if format.greatest < exponent + format.bits then (.infinite, true)
    else
      let back := if 0 ≤ exponent then units * twos exponent.toNat * d = n
        else units * d = n * twos (-exponent).toNat
      (.finite units exponent, units < twos (format.bits - 1) && !back)

/-- The quotient of a whole number times a power, by its numerator and denominator. -/
def quotientOf (power : Nat → Nat) (digits : Nat) (exponent : Int) : Nat × Nat :=
  if 0 ≤ exponent then (digits * power exponent.toNat, 1)
  else (digits, power (-exponent).toNat)

/-- The exponent behind the digits of a number, and what follows it. -/
def exponentAt (letters : List Char) (text : Octets) : Int × Octets :=
  match text with
  | c :: rest =>
    if !letters.contains c then (0, text)
    else
      let (negative, unsigned) : Bool × Octets := match rest with
        | '-' :: rest => (true, rest)
        | '+' :: rest => (false, rest)
        | rest => (false, rest)
      let digits := unsigned.takeWhile Char.isDigit
      if digits.isEmpty then (0, text)
      else
        let n : Int := (Arithmetic.digits 10 digits).1
        (if negative then -n else n, unsigned.drop digits.length)
  | [] => (0, text)

/-- Exponents beyond it are out of every range. -/
def hugeExponent : Int := 20000

/-- The number that the digits at the front of a text stand for, in a base; `none` without digits. -/
def digitsAt (format : FloatFormat) (base : Nat) (text : Octets) :
    Option (Magnitude × Bool × Octets) :=
  let isDigit := Arithmetic.isDigitOf base
  let whole := text.takeWhile isDigit
  let behind := text.drop whole.length
  let fraction := match behind with
    | '.' :: rest => rest.takeWhile isDigit
    | _ => []
  if whole.isEmpty && fraction.isEmpty then none
  else
    let behind := match behind with
      | '.' :: rest => rest.drop fraction.length
      | behind => behind
    let (value, _) := Arithmetic.digits base (whole ++ fraction)
    let (exponent, behind) :=
      exponentAt (if base = 16 then ['p', 'P'] else ['e', 'E']) behind
    let places : Int := if base = 16 then 4 * fraction.length else fraction.length
    let exponent := exponent - places
    let size : Int := whole.length + fraction.length
    some <|
      if value = 0 then (.finite 0 0, false, behind)
      else if hugeExponent < exponent then (.infinite, true, behind)
      else if exponent + 4 * size < -hugeExponent then (.finite 0 0, true, behind)
      else
        let (n, d) := quotientOf (if base = 16 then twos else tens) value exponent
        let (size, outside) := ofQuotient format n d
        (size, outside, behind)

/-- The word at the front of a text, whatever its case, and what follows. -/
def wordAt? (word : String) (text : Octets) : Option Octets :=
  let front := text.take word.length
  if front.map Char.toLower == word.toList then some (text.drop word.length) else none

/-- The number without a sign at the front of a text, whether it is out of range, and what follows. -/
def unsignedAt (format : FloatFormat) (text : Octets) : Option (Magnitude × Bool × Octets) :=
  match (wordAt? "infinity" text).orElse fun _ => wordAt? "inf" text with
  | some rest => some (.infinite, false, rest)
  | none =>
    match wordAt? "nan" text with
    | some rest =>
      let inside := (rest.drop 1).takeWhile fun c => c.isAlphanum || c == '_'
      let behind := match rest with
        | '(' :: _ =>
          match rest.drop (inside.length + 1) with
          | ')' :: behind => behind
          | _ => rest
        | rest => rest
      some (.undefined, false, behind)
    | none =>
      match wordAt? "0x" text with
      | some rest =>
        match digitsAt format 16 rest with
        | some found => some found
        | none => digitsAt format 10 text
      | none => digitsAt format 10 text

/-- A whole number with its sign. -/
def ofNat (n : Nat) : Floating :=
  ⟨false, .finite n 0⟩

/-- The digits of a whole number with a point in front of the last ones. -/
def withPoint (places : Nat) (pointed : Bool) (n : Nat) : Octets :=
  let digits := Text.decimal n
  let digits := List.replicate (places + 1 - digits.length) '0' ++ digits
  let whole := digits.take (digits.length - places)
  whole ++ (if places = 0 then (if pointed then ['.'] else []) else '.' :: digits.drop whole.length)

/-- The exponent of the first decimal digit of a quotient, that is rounded to so many places behind it, and
    the digits. -/
def leadingDigits (n d places : Nat) : Int × Nat :=
  if n = 0 then (0, 0)
  else
    let guess : Int := ((n.log2 : Int) - d.log2 - 1) * 30103 / 100000 - 1
    let rec go : (fuel : Nat) → Int → Int × Nat
      | 0, exponent => (exponent, scaleByTens n d (places - exponent))
      | fuel + 1, exponent =>
        let digits := scaleByTens n d (places - exponent)
        if digits < tens (places + 1) then (exponent, digits) else go fuel (exponent + 1)
    go 5 guess

/-- Text without the zeros behind its point, and without the point if nothing is behind it. -/
def withoutZeros (text : Octets) : Octets :=
  if text.contains '.' then
    let kept := text.reverse.dropWhile (· == '0')
    (if kept.head? = some '.' then kept.drop 1 else kept).reverse
  else text

/-- An exponent with its sign and two digits at least. -/
def exponentText (mark : Char) (least : Nat) (exponent : Int) : Octets :=
  let digits := Text.decimal exponent.natAbs
  mark :: (if exponent < 0 then '-' else '+') ::
    List.replicate (least - digits.length) '0' ++ digits

/-- A quotient with places behind the point. -/
def positional (n d places : Nat) (pointed : Bool) : Octets :=
  withPoint places pointed (scaleByTens n d places)

/-- A quotient with one digit in front of the point and an exponent. -/
def scientific (n d places : Nat) (pointed : Bool) : Octets :=
  let (exponent, digits) := leadingDigits n d places
  withPoint places pointed digits ++ exponentText 'e' 2 exponent

/-- A quotient with so many digits, in the shorter way. -/
def shorter (n d digits : Nat) (pointed : Bool) : Octets :=
  let digits := max digits 1
  let (exponent, _) := leadingDigits n d (digits - 1)
  let drop (text : Octets) : Octets := if pointed then text else withoutZeros text
  if -4 ≤ exponent && exponent < digits then
    drop (positional n d (digits - 1 - exponent).toNat pointed)
  else
    let text := scientific n d (digits - 1) pointed
    let front := text.takeWhile (· != 'e')
    drop front ++ text.drop front.length

/-- Binary digits in the base 16, with an exponent of two. -/
def hexadecimal (format : FloatFormat) (units : Nat) (exponent : Int) (places : Option Nat)
    (pointed : Bool) : Octets :=
  let whole := if format.bits = 53 then 1 else 4
  let nibbles := (format.bits - whole) / 4
  let shift := format.bits - 1 - units.log2
  let (units, exponent) : Nat × Int :=
    if units = 0 then (0, 0)
    else if format.least ≤ exponent - shift then (units * twos shift, exponent - shift)
    else
      let shift := (exponent - format.least).toNat
      (units * twos shift, exponent - shift)
  let shown := (places.getD nibbles)
  let units' := if shown < nibbles then
      roundQuotient units (twos (4 * (nibbles - shown))) * twos (4 * (nibbles - shown))
    else units
  let (units', exponent) := if twos (4 * (nibbles + 1)) ≤ units' then (units' / 16, exponent + 4)
    else (units', exponent)
  let first := units' / twos (4 * nibbles)
  let rest := Nat.toDigits 16 (units' % twos (4 * nibbles))
  let rest := List.replicate (nibbles - rest.length) '0' ++ rest
  let rest := match places with
    | none => (rest.reverse.dropWhile (· == '0')).reverse
    | some n => rest.take n ++ List.replicate (n - nibbles) '0'
  let front := Nat.toDigits 16 first
  let power : Int := if units = 0 then 0 else exponent + (4 * nibbles : Nat)
  front ++ (if rest.isEmpty then (if pointed then ['.'] else []) else '.' :: rest) ++
    exponentText 'p' 1 power

/-- A number without its sign in the way that a letter tells. -/
def render (format : FloatFormat) (letter : Char) (precision : Option Nat) (pointed : Bool)
    (number : Floating) : Octets :=
  let text : Octets := match number.size with
    | .infinite => "inf".toList
    | .undefined => "nan".toList
    | .finite units exponent =>
      let (n, d) := quotientOf twos units exponent
      let places := precision.getD 6
      match letter.toLower with
      | 'f' => positional n d places pointed
      | 'e' => scientific n d places pointed
      | 'g' => shorter n d places pointed
      | _ => hexadecimal format units exponent precision pointed
  if letter.isUpper then text.map Char.toUpper else text

end Floating

end AsmLayout.Host
