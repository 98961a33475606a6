import AsmLayout.Random.Generator
import AsmLayout.Runs
import AsmLayout.Section

/-! # Shuffling the objects of a data segment

An extent of a data segment goes from a line that opens the segment to the next boundary. Inside it
the runs that start at labels change places as a whole; all other lines of a section stay.
-/

namespace AsmLayout

/-- A data segment whose objects can be shuffled. -/
inductive DataSegment where
  | bss
  | data
  | rodata
  deriving Repr, DecidableEq

namespace DataSegment

def name : DataSegment → String
  | bss => "bss"
  | data => "data"
  | rodata => "rodata"

/-- Whether a line opens a segment, with or without a dot before its name. -/
def isOpenedBy (segment : DataSegment) (line : Line) : Bool :=
  line.isStatement && (
    line.startsWith ("." ++ segment.name) ||
    line.startsWith (".section " ++ segment.name) ||
    line.startsWith (".section ." ++ segment.name))

end DataSegment

/-- A part of a section, seen from one data segment. -/
inductive SegmentPart where
  /-- A line outside every extent. -/
  | outside (line : Line)
  /-- The line that opens an extent and the lines inside. -/
  | extent (opening : Line) (inside : List Line)
  deriving Repr, DecidableEq

/-- An extent whose runs were shuffled: the number of its opening line, and how many runs. -/
structure ShuffledExtent where
  line : Nat
  runs : Nat
  deriving Repr, DecidableEq

namespace SegmentPart

/-- Cut lines into the extents of a segment and the lines outside them. -/
def cut (segment : DataSegment) : List Line → List SegmentPart
  | [] => []
  | line :: rest =>
    if segment.isOpenedBy line then
      .extent line (rest.takeWhile (!·.isBoundary)) ::
        cut segment (rest.dropWhile (!·.isBoundary))
    else .outside line :: cut segment rest
termination_by lines => lines.length
decreasing_by
  · have := (List.dropWhile_sublist (fun line : Line => !line.isBoundary) (l := rest)).length_le
    simp only [List.length_cons]
    omega
  · simp

def lines : SegmentPart → List Line
  | outside line => [line]
  | extent opening inside => opening :: inside

variable {G : Type} [Random.Generator G]

/-- Shuffle the runs of an extent that has at least two. Anything else draws nothing. -/
def shuffle : SegmentPart → G → (SegmentPart × Option ShuffledExtent) × G
  | outside line, g => ((outside line, none), g)
  | extent opening inside, g =>
    let objects := runs Line.isLabel inside
    if objects.length < 2 then ((extent opening inside, none), g)
    else
      let (shuffled, g) := Random.shuffle objects g
      ((extent opening shuffled.flatten, some ⟨opening.number, objects.length⟩), g)

end SegmentPart

/-- Shuffle the objects of every extent of a segment; the extents that had something to shuffle are
    reported in order. -/
def Section.shuffleSegment {G : Type} [Random.Generator G] (segment : DataSegment) (sec : Section)
    (g : G) : (Section × List ShuffledExtent) × G :=
  let (parts, g) := Random.traverse SegmentPart.shuffle (SegmentPart.cut segment sec.lines) g
  ((sec.edit (parts.flatMap (·.1.lines)), parts.filterMap (·.2)), g)

end AsmLayout
