import AsmLayout.Proofs.Listing.Order
import AsmLayout.Proofs.Listing.Padding
import AsmLayout.Seed

/-! # Listings after any edits

A listing is built from lines or from a text, and edits follow one another in any order, each with
draws of its own. The sections stay the partition of the lines all the way, although only an append
splits the lines anew and no other edit looks at kinds.
-/

namespace AsmLayout

namespace Listing

/-- The ways to build a listing. -/
inductive Built : Listing → Prop where
  | of_lines {contents : List String} {listing : Listing} :
      ofLines contents = .ok listing → Built listing
  | of_text {text : String} {listing : Listing} : parse text = .ok listing → Built listing

inductive Edit where
  | append (contents : List String)
  | renumber
  | reorder (mode : StructureMode)
  | padFrames (range : Random.Interval)
  | shuffleSegment (segment : DataSegment)
  | padAllocations (range : Random.Interval) (width : PointerWidth)
  deriving Repr, DecidableEq

variable {G : Type} [Random.Generator G]

def Edit.apply (listing : Listing) (g : G) : Edit → Listing
  | append contents => listing.append contents
  | renumber => listing.renumber
  | reorder mode => (listing.reorder mode g).1.1
  | padFrames range => (listing.padFrames range g).1.1
  | shuffleSegment segment => (listing.shuffleSegment segment g).1.1
  | padAllocations range width => (listing.padAllocations range width g).1.1

/-- The listing after edits in order, each with a generator of its own. -/
def edited (listing : Listing) (edits : List (Edit × G)) : Listing :=
  edits.foldl (fun listing (edit, g) => edit.apply listing g) listing

theorem Built.partitioned {listing : Listing} (built : listing.Built) : listing.Partitioned := by
  cases built with
  | of_lines made => exact partitioned_of_ofLines made
  | of_text made => exact partitioned_of_ofLines made

theorem Edit.dialect_apply (edit : Edit) (listing : Listing) (g : G) :
    (edit.apply listing g).dialect = listing.dialect := by
  cases edit with
  | append | renumber | shuffleSegment | padAllocations => rfl
  | reorder mode =>
      rcases reorder_cases mode listing g with ⟨-, same, -⟩ | ⟨-, arranged⟩
      · rw [apply, same]
      · rw [apply, arranged]
  | padFrames range =>
      simp only [apply, Listing.padFrames]
      split <;> rfl

theorem Partitioned.apply {listing : Listing} (partitioned : listing.Partitioned) (edit : Edit)
    (g : G) : (edit.apply listing g).Partitioned := by
  cases edit with
  | append contents =>
      exact partitioned_partition listing.dialect (listing.lines.map (·.content) ++ contents)
  | renumber => exact partitioned.sectioned.renumber
  | reorder mode => exact partitioned.reorder mode g
  | padFrames range => exact partitioned.padFrames range g
  | shuffleSegment segment => exact partitioned.shuffleSegment segment g
  | padAllocations range width => exact partitioned.padAllocations range width g

theorem dialect_edited (listing : Listing) (edits : List (Edit × G)) :
    (listing.edited edits).dialect = listing.dialect := by
  induction edits generalizing listing with
  | nil => rfl
  | cons step rest ih =>
      exact (ih (step.1.apply listing step.2)).trans (step.1.dialect_apply listing step.2)

theorem Partitioned.edited {listing : Listing} (partitioned : listing.Partitioned)
    (edits : List (Edit × G)) : (listing.edited edits).Partitioned := by
  induction edits generalizing listing with
  | nil => exact partitioned
  | cons step rest ih => exact ih (partitioned.apply step.1 step.2)

end Listing

end AsmLayout
