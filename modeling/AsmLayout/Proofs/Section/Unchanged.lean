import AsmLayout.Proofs.Section.Allocation
import AsmLayout.Proofs.Section.Frame
import AsmLayout.Proofs.Section.Segment

/-! # Edits that report nothing

What an edit of a section reports is counted apart from what it does to the lines. All the same, an
edit without a padded call, a padded function or a shuffled extent leaves every line as it was.
-/

namespace AsmLayout

variable {G : Type} [Random.Generator G]

theorem padCalls_of_eq_nil {range : Random.Interval} {width : PointerWidth} {lines : List Line}
    {g : G} (none : (padCalls range width lines g).1.2 = []) :
    (padCalls range width lines g).1.1 = lines := by
  induction lines generalizing g with
  | nil => rfl
  | cons line rest ih =>
      rw [padCalls] at none ⊢
      dsimp only at none ⊢
      split at none
      · contradiction
      · rename_i other
        rw [if_neg other, ih none]

def paddedNames (outcomes : List FrameOutcome) : List String :=
  (PaddingReport.ofOutcomes outcomes).padded

theorem paddedNames_append (first second : List FrameOutcome) :
    paddedNames (first ++ second) = paddedNames first ++ paddedNames second :=
  List.filterMap_append ..

theorem paddedNames_flatMap {α : Type} (f : α → List FrameOutcome) (xs : List α) :
    paddedNames (xs.flatMap f) = xs.flatMap fun x => paddedNames (f x) := by
  induction xs with
  | nil => rfl
  | cons x rest ih => rw [List.flatMap_cons, paddedNames_append, ih, List.flatMap_cons]

theorem FramePart.pad_of_eq_nil {dialect : Dialect} {amount : Nat} {part : FramePart}
    (none : paddedNames (part.pad dialect amount).2.toList = []) :
    (part.pad dialect amount).1 = part.lines := by
  cases part with
  | outside line => rfl
  | orphan line => rfl
  | function body =>
      cases pads : Frame.pad dialect amount body with
      | ok padded =>
          rw [FramePart.pad, pads] at none
          contradiction
      | error reason =>
          rw [FramePart.pad, pads]
          rfl

theorem FramePart.flatMap_pad_of_eq_nil {dialect : Dialect} {amount : Nat} {parts : List FramePart}
    (none : paddedNames ((parts.map (pad dialect amount)).filterMap (·.2)) = []) :
    (parts.map (pad dialect amount)).flatMap (·.1) = parts.flatMap FramePart.lines := by
  induction parts with
  | nil => rfl
  | cons part rest ih =>
      have split : (((part :: rest).map (pad dialect amount)).filterMap (·.2)) =
          (part.pad dialect amount).2.toList ++ (rest.map (pad dialect amount)).filterMap (·.2) := by
        rw [List.map_cons, List.filterMap_cons]
        cases (part.pad dialect amount).2 <;> rfl
      rw [split, paddedNames_append, List.append_eq_nil_iff] at none
      rw [List.map_cons, List.flatMap_cons, pad_of_eq_nil none.1, ih none.2, List.flatMap_cons]

theorem SegmentPart.shuffle_of_eq_none {part : SegmentPart} {g : G}
    (none : (part.shuffle g).1.2 = Option.none) : (part.shuffle g).1.1 = part := by
  cases part with
  | outside line => rfl
  | extent opening inside =>
      rw [shuffle] at none ⊢
      dsimp only at none ⊢
      split at none
      · rename_i few
        rw [if_pos few]
      · contradiction

namespace Section

theorem edit_sameText (sec : Section) : SameText (sec.edit sec.lines) sec :=
  ⟨rfl, rfl, sec.contents_edit sec.lines⟩

theorem padAllocations_sameText {range : Random.Interval} {width : PointerWidth} {sec : Section}
    {g : G} (none : (sec.padAllocations range width g).1.2 = []) :
    SameText (sec.padAllocations range width g).1.1 sec := by
  rw [padAllocations] at none ⊢
  split at none
  · rename_i callless
    rw [if_pos callless]
    exact .refl sec
  · rename_i called
    rw [if_neg called]
    dsimp only at none ⊢
    rw [padCalls_of_eq_nil none]
    exact sec.edit_sameText

theorem padFrames_sameText {amount : Nat} {sec : Section}
    (none : paddedNames (sec.padFrames amount).2 = []) :
    SameText (sec.padFrames amount).1 sec := by
  rw [padFrames] at none ⊢
  dsimp only at none ⊢
  have silent : paddedNames (((FramePart.cut sec.lines).map
      (FramePart.pad sec.dialect (alignDown amount))).filterMap (·.2)) = [] := by
    split at none
    · rename_i empty
      rw [List.isEmpty_iff.mp empty]
      rfl
    · exact none
  rw [FramePart.flatMap_pad_of_eq_nil silent, FramePart.flatMap_cut]
  exact sec.edit_sameText

theorem shuffleSegment_sameText {segment : DataSegment} {sec : Section} {g : G}
    (none : (sec.shuffleSegment segment g).1.2 = []) :
    SameText (sec.shuffleSegment segment g).1.1 sec := by
  have each : List.Forall₂ (fun part edited => edited.2 = Option.none → edited.1 = part)
      (SegmentPart.cut segment sec.lines)
      (Random.traverse SegmentPart.shuffle (SegmentPart.cut segment sec.lines) g).1 :=
    Random.traverse_forall₂ (fun part g => SegmentPart.shuffle_of_eq_none) _ g
  rw [shuffleSegment] at none ⊢
  dsimp only at none ⊢
  rw [List.filterMap_eq_nil_iff] at none
  have same : (Random.traverse SegmentPart.shuffle (SegmentPart.cut segment sec.lines) g).1.flatMap
      (·.1.lines) = (SegmentPart.cut segment sec.lines).flatMap SegmentPart.lines := by
    generalize (Random.traverse _ _ _).1 = edits at each none ⊢
    generalize SegmentPart.cut segment sec.lines = parts at each ⊢
    induction each with
    | nil => rfl
    | cons first _ ih =>
        rw [List.flatMap_cons, List.flatMap_cons, first (none _ (List.mem_cons_self ..)),
          ih fun edit member => none edit (List.mem_cons_of_mem _ member)]
  rw [same, SegmentPart.flatMap_cut]
  exact sec.edit_sameText

end Section

end AsmLayout
