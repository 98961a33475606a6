import AsmLayout.Host.Awk.Number

/-! # Values

A value is a number or a text. A text that has come from outside is a number as well if it looks like one,
and a variable that has never been set is both zero and the empty text.
-/

namespace AsmLayout.Host.Awk

open Text (Octets)

inductive Value where
  | unset
  | number (x : Float)
  | text (text : Octets)
  /-- A text from outside. -/
  | input (text : Octets)
  deriving Repr

namespace Value

def toNumber : Value → Float
  | unset => 0.0
  | number x => x
  | text t | input t => readNumber t

/-- The text of a value; numbers with a fraction are written in a format. -/
def toText (format : Octets) : Value → Octets
  | unset => []
  | number x => numberText format x
  | text t | input t => t

/-- The number that a value is by itself; a text from outside may be one. -/
def ownNumber? : Value → Option Float
  | unset => some 0.0
  | number x => some x
  | text _ => none
  | input t => looksLike? t

def isTrue : Value → Bool
  | unset => false
  | number x => x != 0.0
  | text t => !t.isEmpty
  | input t =>
    match looksLike? t with
    | some x => x != 0.0
    | none => !t.isEmpty

def ofBool (b : Bool) : Value :=
  number (if b then 1.0 else 0.0)

/-- A whole number as a value. -/
def ofNat (n : Nat) : Value :=
  number (Float.ofNat n)

end Value

inductive Comparison where
  | less
  | atMost
  | equal
  | different
  | greater
  | atLeast
  deriving Repr, DecidableEq

/-- Whether a text comes before another one. -/
def textBefore : Octets → Octets → Bool
  | [], [] => false
  | [], _ :: _ => true
  | _ :: _, [] => false
  | a :: as, b :: bs => if a = b then textBefore as bs else a < b

/-- Compare values: as numbers if both are numbers by themselves, as texts otherwise. -/
def Value.compare (format : Octets) (sign : Comparison) (a b : Value) : Bool :=
  match a.ownNumber?, b.ownNumber? with
  | some x, some y =>
    match sign with
    | .less => x < y
    | .atMost => x ≤ y
    | .equal => x == y
    | .different => x != y
    | .greater => y < x
    | .atLeast => y ≤ x
  | _, _ =>
    let s := a.toText format
    let t := b.toText format
    match sign with
    | .less => textBefore s t
    | .atMost => !textBefore t s
    | .equal => s == t
    | .different => s != t
    | .greater => textBefore t s
    | .atLeast => !textBefore s t

/-- Why arguments cannot be laid out. -/
inductive LayoutFault where
  | missing
  /-- The directive of a number, counted from one on, makes no sense. -/
  | improper (number : Nat)
  deriving Repr, DecidableEq

def Value.character (value : Value) : Char :=
  let ofNumber (x : Float) : Char := Char.ofNat (wholePart x % 256).toNat
  match value with
  | .unset => '\x00'
  | .number x => ofNumber x
  | .text t => t.headD '\x00'
  | .input t =>
    match looksLike? t with
    | some x => ofNumber x
    | none => t.headD '\x00'

def takeStar (count : Option Nat) (values : List Value) : Except LayoutFault (Int × List Value) :=
  match count, values with
  | some n, values => .ok (n, values)
  | none, value :: values => .ok (wholePart value.toNumber, values)
  | none, [] => .error .missing

/-- Lay out the next argument; gives its text and the arguments that are left. -/
def layOutNext (format : Octets) (number : Nat) (directive : Directive) (values : List Value) :
    Except LayoutFault (Octets × List Value) := do
  let (width, values) ← takeStar directive.width values
  let (precision, values) ← match directive.precision with
    | none => pure ((-1 : Int), values)
    | some count => takeStar count values
  match values with
  | [] => throw .missing
  | value :: values =>
    let layout : Layout :=
      { flags := if width < 0 then '-' :: directive.flags else directive.flags
        width := width.natAbs
        precision := if precision < 0 then none else some precision.toNat }
    match directive.letter with
    | 's' => return (layout.text (value.toText format), values)
    | 'c' => return (layout.pad [value.character], values)
    | letter =>
      match layOutNumber? layout letter value.toNumber with
      | some text => return (text, values)
      | none => throw (.improper number)

/-- Lay out values as a format tells. Gives the text in parts, the last one first, and what is wrong if
    anything is. `convert` is the format of numbers that are texts. -/
def layOut (convert : Octets) :
    (fuel : Nat) → (number : Nat) → (done : List Octets) → (layout : Octets) → List Value →
      List Octets × Option LayoutFault
  | 0, _, done, _, _ | _, _, done, [], _ => (done, none)
  | fuel + 1, number, done, '%' :: '%' :: rest, values =>
    layOut convert fuel number (['%'] :: done) rest values
  | fuel + 1, number, done, '%' :: rest, values =>
    let (directive, behind) := directiveAt rest
    match layOutNext convert number directive values with
    | .ok (text, values) => layOut convert fuel (number + 1) (text :: done) behind values
    | .error fault => (done, some fault)
  | fuel + 1, number, done, c :: rest, values => layOut convert fuel number ([c] :: done) rest values

end AsmLayout.Host.Awk
