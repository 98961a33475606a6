import AsmLayout.Listing.Padding
import AsmLayout.Proofs.Draws
import AsmLayout.Proofs.Listing.Partition
import AsmLayout.Proofs.Section.Allocation
import AsmLayout.Proofs.Section.Frame
import AsmLayout.Proofs.Section.Segment

/-! # Listings with edited sections stay partitioned

Paddings and shuffles go through the sections one by one, and each of them is only reshaped.
-/

namespace AsmLayout

namespace Listing

variable {G : Type} [Random.Generator G] {listing : Listing}

theorem Partitioned.withEdits {α : Type} (partitioned : listing.Partitioned)
    {edits : List (Section × α)}
    (each : List.Forall₂ (fun sec edit => sec.Reshaped edit.1) listing.sections edits) :
    (listing.withEdits edits).Partitioned := by
  have reshaped : List.Forall₂ Section.Reshaped listing.sections (edits.map Prod.fst) :=
    List.forall₂_map_right_iff.mpr each
  exact (partitioned.sectioned.of_reshaped reshaped).renumber

theorem Partitioned.shuffleSegment (partitioned : listing.Partitioned) (segment : DataSegment)
    (g : G) : (listing.shuffleSegment segment g).1.1.Partitioned := by
  apply partitioned.withEdits
  apply Random.traverse_forall₂
  intro sec g
  exact sec.shuffleSegment_reshaped segment g

theorem Partitioned.padAllocations (partitioned : listing.Partitioned) (range : Random.Interval)
    (width : PointerWidth) (g : G) : (listing.padAllocations range width g).1.1.Partitioned := by
  apply partitioned.withEdits
  apply Random.traverse_forall₂
  intro sec g
  exact sec.padAllocations_reshaped range width g

theorem padFramesOf_reshaped (range : Random.Interval) (sec : Section) (g : G) :
    sec.Reshaped (padFramesOf range sec g).1.1 := by
  unfold padFramesOf
  split
  · exact sec.padFrames_reshaped _
  · exact .refl sec

theorem Partitioned.padFrames (partitioned : listing.Partitioned) (range : Random.Interval)
    (g : G) : (listing.padFrames range g).1.1.Partitioned := by
  unfold Listing.padFrames
  split
  · exact partitioned
  · apply partitioned.withEdits
    apply Random.traverse_forall₂
    intro sec g
    exact padFramesOf_reshaped range sec g

end Listing

end AsmLayout
