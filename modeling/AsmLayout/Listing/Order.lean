import AsmLayout.Listing
import AsmLayout.Random.Generator

/-! # Reordering sections

The first and the last section keep their places, as does the first section with call-frame directives
where the dialect pins it. The others change places as a whole.
-/

namespace AsmLayout

/-- How far sections may move. -/
inductive StructureMode where
  /-- Any order of the movable sections. -/
  | shuffle
  /-- Movable sections are paired up, and each pair is swapped or not. -/
  | smallChanges
  deriving Repr, DecidableEq

def StructureMode.name : StructureMode → String
  | shuffle => "Shuffle"
  | smallChanges => "SmallChanges"

/-- What became of the order of the sections. -/
inductive OrderOutcome where
  /-- Fewer than two sections could move. -/
  | tooFew (movable : Nat)
  /-- The order drawn is the one that was there. -/
  | kept
  /-- The movable positions, and the positions that their sections come from. -/
  | reordered (positions sources : List Nat)
  deriving Repr, DecidableEq

def OrderOutcome.isChange : OrderOutcome → Bool
  | reordered _ _ => true
  | _ => false

namespace Listing

/-- The position of the section that stays because of its call-frame directives. -/
def pinned? (listing : Listing) : Option Nat :=
  if listing.dialect.pinsFirstCallFrame then
    listing.sections.findIdx? fun sec => sec.lines.any Dialect.isCallFrame
  else none

/-- The positions of the sections that may move, in order. -/
def movable (listing : Listing) : List Nat :=
  (List.range (listing.sections.length - 1)).filter fun position =>
    position ≠ 0 && some position ≠ listing.pinned?

/-- The sections with those from `sources` in the places `positions`, the others unmoved. -/
def arrange (sections : List Section) (positions sources : List Nat) : List Section :=
  (List.range sections.length).filterMap fun position =>
    sections[((positions.zip sources).lookup position).getD position]?

variable {G : Type} [Random.Generator G]

/-- Swap the elements of each pair or not, as a coin falls. An odd last element stays. -/
def swapPairs {α : Type} : List α → G → List α × G
  | x :: y :: rest, g =>
    let (swap, g) := Random.coin g
    let (rest, g) := swapPairs rest g
    (if swap then (y :: x :: rest, g) else (x :: y :: rest, g))
  | xs, g => (xs, g)

def drawOrder : StructureMode → List Nat → G → List Nat × G
  | .shuffle, positions, g => Random.shuffle positions g
  | .smallChanges, positions, g => swapPairs positions g

/-- Reorder the movable sections. With fewer than two of them nothing is drawn. -/
def reorder (mode : StructureMode) (listing : Listing) (g : G) :
    (Listing × OrderOutcome) × G :=
  let positions := listing.movable
  if positions.length < 2 then ((listing, .tooFew positions.length), g)
  else
    let (sources, g) := drawOrder mode positions g
    if sources = positions then ((listing, .kept), g)
    else
      let arranged := arrange listing.sections positions sources
      (({ listing with sections := arranged }.renumber, .reordered positions sources), g)

end Listing

end AsmLayout
