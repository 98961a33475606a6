import AsmLayout.Json.Problem

/-! # Numbers of JSON

A number without sign, point and exponent that fits 64 bits is a natural number; every other number is
only checked. A number is out of range if the double nearest to it, computed as the double of its
digits times the double of its power of ten, is infinite.
-/

namespace AsmLayout.Json

inductive Number where
  | natural (n : Nat)
  /-- Negative, fractional, with an exponent, or too large for 64 bits. -/
  | other
  deriving Repr, DecidableEq

/-- Whether a character is a decimal digit. -/
def isDigit (c : Char) : Bool :=
  '0' ≤ c && c ≤ '9'

def digitValue (c : Char) : Nat :=
  c.toNat - '0'.toNat

/-- The least number that does not fit 64 bits. -/
def naturalLimit : Nat := 0x10000000000000000

/-- Read digits on to `significand` while it fits 64 bits; gives the result and the number of digits
    left over. -/
def accumulate (significand : Nat) : List Char → Nat × Nat
  | [] => (significand, 0)
  | digit :: rest =>
    if significand * 10 + digitValue digit < naturalLimit then
      accumulate (significand * 10 + digitValue digit) rest
    else (significand, rest.length + 1)

/-- Round to 53 significant bits, a tie to the even neighbour. -/
def roundToDouble (n : Nat) : Nat :=
  let shift := n.log2 - 52
  let unit := 1 <<< shift
  let low := n / unit
  let twice := 2 * (n % unit)
  if unit < twice || (unit == twice && low % 2 == 1) then (low + 1) * unit else low * unit

/-- The least number that is rounded to infinity. -/
def infinityThreshold : Nat :=
  1 <<< 1024 - 1 <<< 970

/-- Whether digits times a power of ten are out of range. -/
def isOutOfRange (significand : Nat) (exponent : Int) : Bool :=
  significand ≠ 0 && 0 ≤ exponent &&
    (308 < exponent ||
      infinityThreshold ≤ roundToDouble significand * roundToDouble (Nat.pow 10 exponent.toNat))

def checkRange (significand : Nat) (exponent : Int) (rest : List Char) :
    Except Problem (Number × List Char) :=
  if isOutOfRange significand exponent then .error .malformed else .ok (.other, rest)

/-- The digits at the front of a text that has to start with one. -/
def digits : List Char → Except Problem (List Char × List Char)
  | [] => .error .truncated
  | c :: cs =>
    if isDigit c then .ok (c :: cs.takeWhile isDigit, cs.dropWhile isDigit)
    else .error .malformed

/-- The digits of a whole number: a zero is followed by no other digit. -/
def wholeDigits (cs : List Char) : Except Problem (List Char × List Char) :=
  match digits cs with
  | .ok ('0' :: _ :: _, _) => .error .malformed
  | result => result

/-- Whether the exponent behind its letter is negative, and what follows its sign. -/
def exponentSign : List Char → Bool × List Char
  | '-' :: cs => (true, cs)
  | '+' :: cs => (false, cs)
  | cs => (false, cs)

def valueOfDigits (ds : List Char) : Nat :=
  ds.foldl (fun n d => n * 10 + digitValue d) 0

/-- What follows the letter of an exponent, which adds to the exponent there is. -/
def exponentPart (significand : Nat) (exponent : Int) (cs : List Char) :
    Except Problem (Number × List Char) :=
  let (negative, cs) := exponentSign cs
  match digits cs with
  | .error problem => .error problem
  | .ok (ds, rest) =>
    let shift : Int := valueOfDigits ds
    checkRange significand (if negative then exponent - shift else exponent + shift) rest

/-- Whether a character starts an exponent. -/
def isExponentLetter (c : Char) : Bool :=
  c == 'e' || c == 'E'

/-- What follows the point of a number. Digits beyond 64 bits are dropped. -/
def fractionPart (significand : Nat) (exponent : Int) (cs : List Char) :
    Except Problem (Number × List Char) :=
  match digits cs with
  | .error problem => .error problem
  | .ok (ds, rest) =>
    let (significand, dropped) := accumulate significand ds
    let exponent := exponent - ((ds.length - dropped : Nat) : Int)
    match rest with
    | c :: after =>
      if isExponentLetter c then exponentPart significand exponent after
      else checkRange significand exponent rest
    | [] => checkRange significand exponent rest

/-- What follows the sign of a number. -/
def magnitude (negative : Bool) (cs : List Char) : Except Problem (Number × List Char) :=
  match wholeDigits cs with
  | .error problem => .error problem
  | .ok (ds, rest) =>
    let (significand, dropped) := accumulate 0 ds
    let plain : Except Problem (Number × List Char) :=
      if dropped ≠ 0 then checkRange significand dropped rest
      else if negative then .ok (.other, rest)
      else .ok (.natural significand, rest)
    match rest with
    | c :: after =>
      if c == '.' then fractionPart significand dropped after
      else if isExponentLetter c then exponentPart significand dropped after
      else plain
    | [] => plain

/-- A number, from its sign or first digit on. -/
def number : List Char → Except Problem (Number × List Char)
  | '-' :: cs => magnitude true cs
  | cs => magnitude false cs

/-- A problem of a number that is skipped: a missing digit is never a matter of a text that ends. -/
def skippedProblem {α : Type} : Except Problem α → Except Problem α
  | .error _ => .error .malformed
  | result => result

def skipExponent : List Char → Except Problem (List Char)
  | c :: cs =>
    if isExponentLetter c then (digits (exponentSign cs).2).map (·.2) else .ok (c :: cs)
  | [] => .ok []

def skipFraction : List Char → Except Problem (List Char)
  | '.' :: cs => (digits cs).map (·.2)
  | cs => .ok cs

/-- Skip a number without a look at its range. -/
def skipNumber (cs : List Char) : Except Problem (List Char) :=
  skippedProblem do
    let (_, cs) ← wholeDigits (match cs with | '-' :: rest => rest | _ => cs)
    let cs ← skipFraction cs
    skipExponent cs

end AsmLayout.Json
