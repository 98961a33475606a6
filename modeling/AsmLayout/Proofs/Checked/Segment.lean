import AsmLayout.Proofs.Checked.Shuffle
import AsmLayout.Proofs.Section.Extent
import AsmLayout.Proofs.Section.Segment

/-! # Shuffling the objects of a data segment by positions

A cursor goes from extent to extent. The objects of an extent change places between its opening line
and the next boundary; as they are put back in the same number, the cursor stays where the rest
starts.
-/

namespace AsmLayout.Checked

variable {G : Type} [Random.Generator G]

/-- A section whose objects are being shuffled. -/
structure Shuffling (G : Type) where
  lines : List Line
  extents : List ShuffledExtent
  cursor : Nat
  generator : G

/-- Shuffle the first extent from the cursor on. -/
def shuffleNext (segment : DataSegment) (state : Shuffling G) :
    Except Fault (Shuffling G ⊕ (List Line × List ShuffledExtent) × G) :=
  match Extent.firstFrom? segment.isOpenedBy state.lines state.cursor with
  | none => .ok (.inr ((state.lines, state.extents), state.generator))
  | some start => do
    let stop := (Extent.firstFrom? Line.isBoundary state.lines (start + 1)).getD state.lines.length
    let objects := runs Line.isLabel (← slice state.lines (start + 1) stop)
    if objects.length < 2 then return .inl { state with cursor := stop }
    else
      let (shuffled, generator) ← shuffle objects state.generator
      let opening ← get state.lines start
      return .inl {
        lines := ← splice state.lines (start + 1) stop shuffled.flatten
        extents := state.extents ++ [⟨opening.number, objects.length⟩]
        cursor := stop
        generator }

def shuffleSegment (segment : DataSegment) (sec : Section) (g : G) :
    Except Fault ((Section × List ShuffledExtent) × G) := do
  let ((lines, extents), g) ←
    loop (shuffleNext segment) (sec.lines.length + 1) ⟨sec.lines, [], 0, g⟩
  return ((sec.edit lines, extents), g)

theorem getD_firstFrom?_append (property : Line → Bool) (front rest : List Line) :
    (Extent.firstFrom? property (front ++ rest) front.length).getD (front ++ rest).length =
      front.length + (rest.takeWhile (!property ·)).length := by
  rw [Extent.firstFrom?_append, List.length_append]
  induction rest with
  | nil => rfl
  | cons line rest ih =>
      rw [List.findIdx?_cons, List.takeWhile_cons]
      cases property line with
      | true => rfl
      | false =>
          simp only [Bool.false_eq_true, if_false, Bool.not_false, if_true, List.length_cons]
          cases found : rest.findIdx? property with
          | none => simp only [found, Option.map_none, Option.getD_none] at ih ⊢; omega
          | some index => simp only [found, Option.map_some, Option.getD_some] at ih ⊢; omega

/-- The slice of an extent and the splice into it lie within the lines, and the cursor comes to
    stand in front of what follows. -/
theorem shuffleNext_of_opened {segment : DataSegment} {line : Line}
    (opens : segment.isOpenedBy line = true) (front rest : List Line)
    (extents : List ShuffledExtent) (g : G) :
    let part := SegmentPart.extent line (rest.takeWhile (!·.isBoundary))
    ∃ mixed, mixed.length = (rest.takeWhile (!·.isBoundary)).length ∧
      shuffleNext segment ⟨front ++ line :: rest, extents, front.length, g⟩ = .ok (.inl {
        lines := front ++ line :: mixed ++ rest.dropWhile (!·.isBoundary)
        extents := extents ++ (part.shuffle g).1.2.toList
        cursor := (front ++ line :: mixed).length
        generator := (part.shuffle g).2 }) ∧
      (part.shuffle g).1.1.lines = line :: mixed := by
  dsimp only
  generalize inside_eq : rest.takeWhile (!·.isBoundary) = inside
  generalize after_eq : rest.dropWhile (!·.isBoundary) = after
  have start := Extent.firstFrom?_here opens front rest
  have before : front ++ line :: rest = (front ++ [line]) ++ (inside ++ after) := by
    rw [← inside_eq, ← after_eq, List.takeWhile_append_dropWhile, List.append_assoc,
      List.singleton_append]
  have behind : front.length + 1 = (front ++ [line]).length := by simp
  have stop : (Extent.firstFrom? Line.isBoundary (front ++ line :: rest) (front.length + 1)).getD
      (front ++ line :: rest).length = front.length + 1 + inside.length := by
    rw [List.append_cons, behind, getD_firstFrom?_append, inside_eq]
  have sliced : slice (front ++ line :: rest) (front.length + 1)
      (front.length + 1 + inside.length) = .ok inside := by
    rw [before, behind, slice_append]
  have opening := get_append front line rest
  have reach (mixed : List Line) (length : mixed.length = inside.length) :
      front.length + 1 + inside.length = (front ++ line :: mixed).length := by
    rw [List.length_append, List.length_cons, length]
    omega
  by_cases few : (runs Line.isLabel inside).length < 2
  · have kept : (SegmentPart.extent line inside).shuffle g = ((.extent line inside, none), g) := by
      rw [SegmentPart.shuffle]
      exact if_pos few
    have whole : front ++ line :: inside ++ after = front ++ line :: rest := by
      rw [before, List.append_cons, List.append_assoc]
    refine ⟨inside, rfl, ?_, by rw [kept]; rfl⟩
    simp only [shuffleNext, start, stop, sliced, few, bind, Except.bind, if_true]
    rw [kept, whole, reach inside rfl, Option.toList_none, List.append_nil]
    rfl
  · have spliced := fun new => splice_append (front ++ [line]) inside after new
    rw [← before, ← behind] at spliced
    have shuffled : (SegmentPart.extent line inside).shuffle g =
        ((.extent line (Random.shuffle (runs Line.isLabel inside) g).1.flatten,
          some ⟨line.number, (runs Line.isLabel inside).length⟩),
          (Random.shuffle (runs Line.isLabel inside) g).2) := by
      rw [SegmentPart.shuffle]
      exact if_neg few
    have length := (SegmentPart.shuffle_objects_perm inside g).length_eq
    refine ⟨(Random.shuffle (runs Line.isLabel inside) g).1.flatten, length, ?_,
      by rw [shuffled]; rfl⟩
    simp only [shuffleNext, start, stop, sliced, few, bind, Except.bind, if_false, shuffle_eq,
      opening, spliced]
    rw [shuffled, reach _ length, Option.toList_some, ← List.append_assoc, ← List.append_cons]
    rfl

theorem loop_shuffleNext (segment : DataSegment) (front rest : List Line)
    (extents : List ShuffledExtent) (g : G) {rounds : Nat} (enough : rest.length < rounds) :
    loop (shuffleNext segment) rounds ⟨front ++ rest, extents, front.length, g⟩ =
      .ok ((front ++ (Random.traverse SegmentPart.shuffle (SegmentPart.cut segment rest) g).1.flatMap
            (·.1.lines),
          extents ++ (Random.traverse SegmentPart.shuffle (SegmentPart.cut segment rest) g).1.filterMap
            (·.2)),
        (Random.traverse SegmentPart.shuffle (SegmentPart.cut segment rest) g).2) := by
  fun_induction SegmentPart.cut segment rest generalizing front extents g rounds with
  | case1 =>
      have none : Extent.firstFrom? segment.isOpenedBy (front ++ []) front.length = none := by
        rw [Extent.firstFrom?_append]
        rfl
      rw [loop_of_result (by rw [shuffleNext, none]) (Nat.zero_lt_of_lt enough)]
      simp [Random.traverse]
  | case2 line rest opens ih =>
      obtain ⟨mixed, length, next, lines⟩ := shuffleNext_of_opened opens front rest extents g
      have shorter := (List.dropWhile_sublist (!Line.isBoundary ·) (l := rest)).length_le
      rw [List.length_cons] at enough
      rw [loop_of_next next (Nat.zero_lt_of_lt enough), ih _ _ _ (by omega), Random.traverse]
      simp only [List.flatMap_cons, lines, List.filterMap_cons, List.append_assoc, List.cons_append]
      cases ((SegmentPart.extent line (rest.takeWhile (!·.isBoundary))).shuffle g).1.2 with
      | none => rfl
      | some extent => rfl
  | case3 line rest plain ih =>
      rw [List.length_cons] at enough
      -- The search passes over the line, so the step is the one from behind it.
      have passed : shuffleNext segment ⟨front ++ line :: rest, extents, front.length, g⟩ =
          shuffleNext segment ⟨(front ++ [line]) ++ rest, extents, (front ++ [line]).length, g⟩ := by
        have search := Extent.firstFrom?_pass (eq_false_of_ne_true plain) front rest
        rw [shuffleNext, shuffleNext]
        simp only [search]
        simp
      rw [loop_congr passed, ih _ _ _ (by omega), Random.traverse]
      simp [SegmentPart.shuffle, SegmentPart.lines]

theorem shuffleSegment_eq (segment : DataSegment) (sec : Section) (g : G) :
    shuffleSegment segment sec g = .ok (sec.shuffleSegment segment g) := by
  have run := loop_shuffleNext segment [] sec.lines [] g (Nat.lt_succ_self _)
  rw [List.nil_append, List.length_nil] at run
  rw [shuffleSegment, run]
  rfl

end AsmLayout.Checked
