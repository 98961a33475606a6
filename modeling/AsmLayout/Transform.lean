import AsmLayout.Config
import AsmLayout.Listing.Order
import AsmLayout.Listing.Padding

/-! # Transforms and their sequence

A transform edits a listing and tells what it did. In a sequence the edit of a transform that changed
nothing is discarded; its draws are not taken back.
-/

namespace AsmLayout

/-- One randomization of a listing. -/
inductive Transform where
  | reorder (mode : StructureMode)
  | padAllocations (bound : Nat) (width : PointerWidth)
  | padFrames (bound : Nat)
  | shuffleSegment (segment : DataSegment)
  deriving Repr, DecidableEq

inductive Effect where
  /-- The first number of every section beforehand, and what became of their order. -/
  | order (starts : List Nat) (outcome : OrderOutcome)
  /-- The padded calls of every section. -/
  | allocations (calls : List (List PaddedCall))
  | frames (outcomes : List FrameOutcome)
  | objects (extents : List ShuffledExtent)
  deriving Repr, DecidableEq

namespace Effect

/-- The number of padded allocation calls. -/
def callCount (calls : List (List PaddedCall)) : Nat :=
  calls.flatten.length

/-- Whether a transform changed its listing. -/
def isChange : Effect → Bool
  | order _ outcome => outcome.isChange
  | allocations calls => callCount calls > 0
  | frames outcomes => !(PaddingReport.ofOutcomes outcomes).padded.isEmpty
  | objects extents => !extents.isEmpty

end Effect

namespace Transform

def name : Transform → String
  | reorder _ => "FileStructure"
  | padAllocations _ _ => "HeapPadding"
  | padFrames _ => "StackPadding"
  | shuffleSegment .bss => "BssShuffle"
  | shuffleSegment .data => "DataShuffle"
  | shuffleSegment .rodata => "RodataShuffle"

variable {G : Type} [Random.Generator G]

def apply (transform : Transform) (listing : Listing) (g : G) : (Listing × Effect) × G :=
  match transform with
  | reorder mode =>
    let ((after, outcome), g) := listing.reorder mode g
    ((after, .order (listing.sections.map (·.span.1)) outcome), g)
  | padAllocations bound width =>
    let ((after, calls), g) := listing.padAllocations ⟨0, bound⟩ width g
    ((after, .allocations calls), g)
  | padFrames bound =>
    let ((after, outcomes), g) := listing.padFrames ⟨0, bound⟩ g
    ((after, .frames outcomes), g)
  | shuffleSegment segment =>
    let ((after, extents), g) := listing.shuffleSegment segment g
    ((after, .objects extents), g)

/-- One transform of a sequence that has run. -/
structure Step where
  transform : Transform
  effect : Effect
  /-- The number of lines before. -/
  linesBefore : Nat
  /-- The number of lines that the edit leaves. -/
  linesAfter : Nat
  deriving Repr, DecidableEq

/-- Run transforms in order, each on what the previous ones leave. -/
def runAll : List Transform → Listing → G → (Listing × List Step) × G
  | [], listing, g => ((listing, []), g)
  | transform :: rest, listing, g =>
    let ((edited, effect), g) := transform.apply listing g
    let kept := if effect.isChange then edited else listing
    let ((final, steps), g) := runAll rest kept g
    ((final, ⟨transform, effect, listing.lineCount, edited.lineCount⟩ :: steps), g)

/-- The names of the transforms that changed the listing, in order. -/
def applied (steps : List Step) : List String :=
  (steps.filter (·.effect.isChange)).map (·.transform.name)

end Transform

end AsmLayout
