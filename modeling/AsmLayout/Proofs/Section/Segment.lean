import AsmLayout.Proofs.Draws
import AsmLayout.Proofs.Runs
import AsmLayout.Proofs.Section.Reshaping
import AsmLayout.Section.Segment

/-! # Shuffled segments keep landmarks

The line that opens an extent stays in front of it, and behind it the objects change places as a
whole.
-/

namespace AsmLayout

namespace SegmentPart

theorem flatMap_cut (segment : DataSegment) (lines : List Line) :
    (cut segment lines).flatMap SegmentPart.lines = lines := by
  fun_induction cut segment lines with
  | case1 => rfl
  | case2 line rest _ ih =>
      rw [List.flatMap_cons, ih, SegmentPart.lines, List.cons_append,
        List.takeWhile_append_dropWhile]
  | case3 line rest _ ih => rw [List.flatMap_cons, ih, SegmentPart.lines, List.singleton_append]

variable {G : Type} [Random.Generator G]

theorem shuffle_objects_perm (inside : List Line) (g : G) :
    (Random.shuffle (runs Line.isLabel inside) g).1.flatten.Perm inside := by
  have perm := (Random.shuffle_perm (runs Line.isLabel inside) g).flatten
  rwa [flatten_runs] at perm

theorem shuffle_keepsLandmarks (part : SegmentPart) (g : G) :
    KeepsLandmarks part.lines (part.shuffle g).1.1.lines := by
  cases part with
  | outside line => exact .refl [line]
  | extent opening inside =>
      rw [shuffle]
      dsimp only
      split
      · exact .refl (opening :: inside)
      · exact .of_perm opening (shuffle_objects_perm inside g)

end SegmentPart

theorem Section.shuffleSegment_reshaped {G : Type} [Random.Generator G] (segment : DataSegment)
    (sec : Section) (g : G) : Reshaped sec (sec.shuffleSegment segment g).1.1 := by
  have each : List.Forall₂ (fun part edited => KeepsLandmarks part.lines edited.1.lines)
      (SegmentPart.cut segment sec.lines)
      (Random.traverse SegmentPart.shuffle (SegmentPart.cut segment sec.lines) g).1 :=
    Random.traverse_forall₂ SegmentPart.shuffle_keepsLandmarks _ g
  have keeps := KeepsLandmarks.flatMap each
  rw [SegmentPart.flatMap_cut] at keeps
  exact reshaped_edit keeps

end AsmLayout
