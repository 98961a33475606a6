import AsmLayout.Runs
import AsmLayout.Section
import AsmLayout.Text.Lines

/-! # Listings

A listing is a file of assembly, split into sections by the conventions of its dialect. The lines of
its sections, one section after the other, are the lines of the file.
-/

namespace AsmLayout

/-- A file of assembly. -/
structure Listing where
  dialect : Dialect
  sections : List Section
  deriving Repr, DecidableEq

namespace Listing

/-- Split lines into sections, in front of every line that opens one. -/
def partition (dialect : Dialect) (lines : List Line) : List Section :=
  (runs dialect.splitsBefore lines).map (Section.ofLines dialect)

/-- The listing of some lines, numbered from zero, with the dialect that their markers tell. -/
def ofLines (contents : List String) : Except Error Listing :=
  let lines := Line.numbered 0 contents
  match Dialect.detect lines with
  | .ok dialect => .ok { dialect, sections := partition dialect lines }
  | .error cause => .error cause

/-- The listing of a text. Blanks at the end of a line are dropped. -/
def parse (text : String) : Except Error Listing :=
  ofLines ((Text.lines text.toList).map fun line => String.ofList (Text.trimEnd line))

def lines (listing : Listing) : List Line :=
  listing.sections.flatMap (·.lines)

def lineCount (listing : Listing) : Nat :=
  listing.lines.length

/-- Number the lines of sections from `start` on. -/
def renumberFrom (start : Nat) : List Section → List Section
  | [] => []
  | sec :: rest => sec.renumber start :: renumberFrom (sec.nextNumber start) rest

/-- Number all lines from zero on. -/
def renumber (listing : Listing) : Listing :=
  { listing with sections := renumberFrom 0 listing.sections }

/-- Append lines and split the whole file anew; the dialect stays. -/
def append (listing : Listing) (contents : List String) : Listing :=
  { listing with
    sections := partition listing.dialect
      (Line.numbered 0 (listing.lines.map (·.content) ++ contents)) }

/-- The comment line that stands between two sections in the text of a listing. -/
def separator : String := "/****/"

/-- The text of a listing, without location directives. -/
def render (listing : Listing) : String :=
  ("\n" ++ separator ++ "\n").intercalate (listing.sections.map (·.render)) ++ "\n"

end Listing

end AsmLayout
