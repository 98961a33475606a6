import AsmLayout.Listing
import AsmLayout.Section.Allocation
import AsmLayout.Section.Frame
import AsmLayout.Section.Segment

/-! # Edits inside the sections of a listing

Each edit goes through the sections in order, with one generator, and leaves dense numbers. Sections
are neither split nor joined, and their kinds stay.
-/

namespace AsmLayout

namespace Listing

variable {G : Type} [Random.Generator G]

/-- Put the results of an edit of each section into a listing. -/
def withEdits {α : Type} (listing : Listing) (edits : List (Section × α)) : Listing :=
  { listing with sections := edits.map Prod.fst }.renumber

/-- Shuffle the objects of a data segment; gives the extents shuffled. -/
def shuffleSegment (segment : DataSegment) (listing : Listing) (g : G) :
    (Listing × List ShuffledExtent) × G :=
  let (edits, g) := Random.traverse (Section.shuffleSegment segment) listing.sections g
  ((listing.withEdits edits, edits.flatMap (·.2)), g)

/-- Pad the allocation calls; gives the padded calls of each section. -/
def padAllocations (range : Random.Interval) (width : PointerWidth) (listing : Listing) (g : G) :
    (Listing × List (List PaddedCall)) × G :=
  let (edits, g) := Random.traverse (Section.padAllocations range width) listing.sections g
  ((listing.withEdits edits, edits.map (·.2)), g)

/-- Pad the frames of a function section by an amount of its own; other sections draw nothing. -/
def padFramesOf (range : Random.Interval) (sec : Section) (g : G) :
    (Section × List FrameOutcome) × G :=
  if sec.isFunction then
    let (amount, g) := Random.inInterval range g
    (sec.padFrames amount, g)
  else ((sec, []), g)

/-- Pad the stack frames; gives what became of the functions, in order. An empty range changes
    nothing. -/
def padFrames (range : Random.Interval) (listing : Listing) (g : G) :
    (Listing × List FrameOutcome) × G :=
  if range.isEmpty then ((listing, []), g)
  else
    let (edits, g) := Random.traverse (padFramesOf range) listing.sections g
    ((listing.withEdits edits, edits.flatMap (·.2)), g)

end Listing

end AsmLayout
