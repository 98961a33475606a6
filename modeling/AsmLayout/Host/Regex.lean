import AsmLayout.Host.Shell.Pattern

/-! # Regular expressions

A regular expression fits parts of a text. Of all parts that it fits, the first and of these the longest
one counts. What stands in a group is remembered.
-/

namespace AsmLayout.Host

open Text (Octets)

inductive Regex where
  | nothing
  | exactly (c : Char)
  | any
  | among (negated : Bool) (items : List BracketItem)
  | lineStart
  | lineEnd
  | wordStart
  | wordEnd
  | wordEdge
  | noWordEdge
  | sequence (first second : Regex)
  | either (first second : Regex)
  /-- So many times at least, and at most if there is a bound. -/
  | repeated (inner : Regex) (least : Nat) (most : Option Nat)
  | group (number : Nat) (inner : Regex)
  /-- What a group has fitted. -/
  | again (number : Nat)
  deriving Repr, DecidableEq

namespace Regex

/-- Where a fit has come to, and what its groups fit: from where to where. -/
structure Fit where
  position : Nat
  groups : List (Nat × Nat × Nat) := []
  deriving Repr, DecidableEq

structure Subject where
  text : Array Char
  /-- Small and capital letters are the same. -/
  folded : Bool := false
  /-- The text is not the front of its line. -/
  inside : Bool := false

/-- Whether a character can be part of a word. -/
def isWordChar (c : Char) : Bool :=
  c.isAlphanum || c == '_'

/-- Whether a character of a word stands at a position. -/
def Subject.hasWord (subject : Subject) (position : Nat) : Bool :=
  match subject.text[position]? with
  | some c => isWordChar c
  | none => false

/-- Whether a character of a word stands in front of a position. -/
def Subject.wordBefore (subject : Subject) (position : Nat) : Bool :=
  match position with
  | 0 => false
  | n + 1 => subject.hasWord n

def otherCase (c : Char) : Char :=
  if c.isUpper then c.toLower else c.toUpper

/-- Whether a test holds of a character, in either case if that does not count. -/
def Subject.holds (subject : Subject) (test : Char → Bool) (c : Char) : Bool :=
  test c || (subject.folded && test (otherCase c))

/-- The places that fits have come to, as the bits of a number, besides those that are known. -/
def places (known : Nat) (fits : List Fit) : Nat :=
  fits.foldl (fun known fit => known ||| (1 <<< fit.position)) known

/-- Fits without those that come to a known place, or to where an earlier one has come. -/
def distinct : (known : Nat) → List Fit → List Fit
  | _, [] => []
  | known, fit :: fits =>
    if known.testBit fit.position then distinct known fits
    else fit :: distinct (places known [fit]) fits

/-- Go on with fits in one way as often as wanted; `found` are the fits so far, and `known` the places that
    they have come to. -/
def spread (step : Fit → List Fit) : (fuel known : Nat) → (found new : List Fit) → List Fit
  | 0, _, found, _ => found
  | fuel + 1, known, found, new =>
    let next := distinct known (new.flatMap step)
    if next.isEmpty then found else spread step fuel (places known next) (next ++ found) next

/-- Go on with fits in one way so many times. -/
def advance (step : Fit → List Fit) : (times : Nat) → List Fit → List Fit
  | 0, fits => fits
  | n + 1, fits => advance step n (distinct 0 (fits.flatMap step))

/-- Fits with those first that come furthest. -/
def furthestFirst (fits : List Fit) : List Fit :=
  fits.mergeSort fun a b => b.position ≤ a.position

/-- A test on the next character. -/
def onCharacter (subject : Subject) (test : Char → Bool) (fit : Fit) : List Fit :=
  match subject.text[fit.position]? with
  | some c => if subject.holds test c then [{ fit with position := fit.position + 1 }] else []
  | none => []

def onPosition (test : Bool) (fit : Fit) : List Fit :=
  if test then [fit] else []

/-- The characters from one position to another one. -/
def Subject.part (subject : Subject) (start stop : Nat) : Octets :=
  (subject.text.extract start stop).toList

/-- How a fit can go on with a regular expression. -/
def fits (subject : Subject) : Regex → Fit → List Fit
  | nothing, fit => [fit]
  | exactly c, fit => onCharacter subject (· == c) fit
  | any, fit => onCharacter subject (fun _ => true) fit
  | among negated items, fit =>
    match subject.text[fit.position]? with
    | some c =>
      if subject.holds (fun c => items.any (·.fits c)) c != negated
      then [{ fit with position := fit.position + 1 }] else []
    | none => []
  | lineStart, fit => onPosition (fit.position == 0 && !subject.inside) fit
  | lineEnd, fit => onPosition (fit.position == subject.text.size) fit
  | wordStart, fit =>
    onPosition (!subject.wordBefore fit.position && subject.hasWord fit.position) fit
  | wordEnd, fit =>
    onPosition (subject.wordBefore fit.position && !subject.hasWord fit.position) fit
  | wordEdge, fit =>
    onPosition (subject.wordBefore fit.position != subject.hasWord fit.position) fit
  | noWordEdge, fit =>
    onPosition (subject.wordBefore fit.position == subject.hasWord fit.position) fit
  | sequence first second, fit =>
    distinct 0 ((fits subject first fit).flatMap (fits subject second))
  | either first second, fit =>
    furthestFirst (distinct 0 (fits subject first fit ++ fits subject second fit))
  | repeated inner least most, fit =>
    let step := fits subject inner
    let start := advance step least [fit]
    let bound := match most with
      | some n => n - least
      | none => subject.text.size + 1
    furthestFirst (spread step bound (places 0 start) start start)
  | group number inner, fit =>
    (fits subject inner fit).map fun found =>
      { found with groups := (number, fit.position, found.position) ::
          found.groups.filter fun entry => entry.1 != number }
  | again number, fit =>
    match fit.groups.lookup number with
    | none => []
    | some (start, stop) =>
      let wanted := subject.part start stop
      let here := subject.part fit.position (fit.position + wanted.length)
      let same := if subject.folded then here.map Char.toLower == wanted.map Char.toLower
        else here == wanted
      if same then [{ fit with position := fit.position + wanted.length }] else []

/-- The longest fit from a position on. -/
def fitAt? (regex : Regex) (subject : Subject) (position : Nat) : Option Fit :=
  (furthestFirst (fits subject regex { position })).head?

/-- The first fit from a position on: where it starts and how it goes. -/
def findFrom (regex : Regex) (subject : Subject) : (left : Nat) → (position : Nat) → Option (Nat × Fit)
  | 0, _ => none
  | left + 1, position =>
    match regex.fitAt? subject position with
    | some fit => some (position, fit)
    | none => findFrom regex subject left (position + 1)

/-- The first fit from a position on: where it starts and how it goes. -/
def find? (regex : Regex) (subject : Subject) (position : Nat) : Option (Nat × Fit) :=
  regex.findFrom subject (subject.text.size + 1 - position) position

/-- Whether there is a group in a regular expression. -/
def hasGroup : Regex → Bool
  | group _ _ => true
  | sequence first second | either first second => hasGroup first || hasGroup second
  | repeated inner _ _ => hasGroup inner
  | _ => false

/-- Whether a regular expression fits a part of a text. -/
def occurs (regex : Regex) (folded : Bool) (text : Octets) : Bool :=
  (regex.find? { text := text.toArray, folded } 0).isSome

end Regex

end AsmLayout.Host
