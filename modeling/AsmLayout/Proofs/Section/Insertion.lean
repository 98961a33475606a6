import AsmLayout.Proofs.Draws
import AsmLayout.Proofs.Insertion
import AsmLayout.Section.Segment

/-! # Sections with adjustments put in

Padded allocation calls by a fixed amount are an insertion. A shuffle finds the same extents and the
same objects with it and without it, so it draws the same order of them and moves every adjustment with
the call behind it. Only a line numbered zero could be told apart, and that one never stands inside an
extent.
-/

namespace AsmLayout

/-! ## Sections -/

/-- A section, and the same with insertions between its lines. -/
structure Section.Filled (ins : Insertion) (sec filled : Section) : Prop where
  kind : filled.kind = sec.kind
  dialect : filled.dialect = sec.dialect
  lines : Inserted ins sec.lines filled.lines

namespace Section.Filled

variable {ins : Insertion} {sec sec' filled filled' : Section}

theorem congr (fills : Filled ins sec filled) (before : sec'.SameText sec)
    (after : filled'.SameText filled) : Filled ins sec' filled' where
  kind := after.kind.trans (fills.kind.trans before.kind.symm)
  dialect := after.dialect.trans (fills.dialect.trans before.dialect.symm)
  lines := fills.lines.congr before.contents after.contents

theorem sameText (first : Filled ins sec filled) (second : Filled ins sec filled') :
    filled.SameText filled' where
  kind := first.kind.trans second.kind.symm
  dialect := first.dialect.trans second.dialect.symm
  contents := first.lines.contents.trans second.lines.contents.symm

theorem edit (fills : Filled ins sec filled) {lines lines' : List Line}
    (inserted : Inserted ins lines lines') : Filled ins (sec.edit lines) (filled.edit lines') where
  kind := fills.kind
  dialect := fills.dialect
  lines := inserted.congr (sec.contents_edit lines) (filled.contents_edit lines')

theorem nothing_iff : Filled .nothing sec filled ↔ filled.SameText sec :=
  ⟨fun fills => ⟨fills.kind, fills.dialect, Inserted.nothing_iff.mp fills.lines⟩,
    fun same => ⟨same.kind, same.dialect, Inserted.nothing_iff.mpr same.contents⟩⟩

end Section.Filled

/-! ## Allocation calls -/

variable {G : Type} [Random.Generator G]

theorem padCalls_inserted (amount : Nat) (width : PointerWidth) (lines : List Line) (g : G) :
    Inserted (.ofAmount width amount) lines (padCalls ⟨amount, amount + 1⟩ width lines g).1.1 := by
  induction lines generalizing g with
  | nil => exact .nil
  | cons line rest ih =>
      rw [padCalls]
      dsimp only
      split
      · rename_i call
        refine .put ?_ rfl (ih g)
        rw [Random.inInterval_single]
        exact if_pos call
      · rename_i other
        exact .keep (if_neg other) rfl (ih g)

theorem Inserted.of_callless {width : PointerWidth} {amount : Nat} {lines : List Line}
    (callless : lines.any (·.isAllocationCall) = false) :
    Inserted (.ofAmount width amount) lines lines := by
  induction lines with
  | nil => exact .nil
  | cons line rest ih =>
      obtain ⟨own, later⟩ := Bool.or_eq_false_iff.mp callless
      exact .keep (if_neg (by simp [own])) rfl (ih later)

theorem Section.padAllocations_filled (amount : Nat) (width : PointerWidth) (sec : Section) (g : G) :
    Filled (.ofAmount width amount) sec
      (sec.padAllocations ⟨amount, amount + 1⟩ width g).1.1 := by
  rw [padAllocations]
  split
  · rename_i callless
    refine ⟨rfl, rfl, .of_callless ?_⟩
    simpa [Random.Interval.isEmpty, Nat.not_le.mpr (Nat.lt_succ_self amount)] using callless
  · have inserted := padCalls_inserted amount width sec.lines g
    exact ⟨rfl, rfl, inserted.congr rfl (sec.contents_edit _)⟩

/-! ## Segments -/

namespace Line

def isTextBoundary (line : Line) : Bool :=
  line.isBlank || (line.isStatement && line.isSegment)

theorem isBoundary_of_number_ne_zero {line : Line} (behind : line.number ≠ 0) :
    line.isBoundary = line.isTextBoundary := by
  rw [isBoundary, beq_false_of_ne behind, Bool.or_false, isTextBoundary]

end Line

namespace TellsLandmark

theorem isLabel : TellsLandmark Line.isLabel where
  numberless _ _ := rfl
  no_instruction _ := Line.isLabel_of_isInstruction

theorem isTextBoundary : TellsLandmark Line.isTextBoundary where
  numberless _ _ := rfl
  no_instruction line instruction := by
    rw [Line.isTextBoundary, Line.isBlank_of_isInstruction instruction,
      isSegment.no_instruction line instruction, Bool.and_false, Bool.or_false]

theorem isOpenedBy (segment : DataSegment) : TellsLandmark segment.isOpenedBy where
  numberless _ _ := rfl
  no_instruction line instruction := by
    have undirected (name : String) : line.startsWith ("." ++ name) = false ∧
        line.startsWith (".section " ++ name) = false ∧
        line.startsWith (".section ." ++ name) = false := by
      refine ⟨?_, ?_, ?_⟩ <;>
        exact Line.startsWith_of_isInstruction instruction (String.toList_append ..) (by decide)
    obtain ⟨bare, plain, dotted⟩ := undirected segment.name
    rw [DataSegment.isOpenedBy, bare, plain, dotted]
    exact Bool.and_false _

end TellsLandmark

namespace SegmentPart

theorem span_isBoundary {lines : List Line} (behind : ∀ line ∈ lines, line.number ≠ 0) :
    lines.takeWhile (!·.isBoundary) = lines.takeWhile (!·.isTextBoundary) ∧
      lines.dropWhile (!·.isBoundary) = lines.dropWhile (!·.isTextBoundary) := by
  induction lines with
  | nil => exact ⟨rfl, rfl⟩
  | cons line rest ih =>
      obtain ⟨taken, dropped⟩ := ih fun other member => behind other (List.mem_cons_of_mem _ member)
      have own := Line.isBoundary_of_number_ne_zero (behind line (List.mem_cons_self ..))
      simp only [List.takeWhile_cons, List.dropWhile_cons, own, taken, dropped, and_self]

variable {ins : Insertion}

theorem shuffle_inserted {opening opening' : Line} {inside inside' : List Line}
    (free : ins.front opening = none) (same : opening'.content = opening.content)
    (inserted : Inserted ins inside inside') (g : G) :
    Inserted ins ((extent opening inside).shuffle g).1.1.lines
        ((extent opening' inside').shuffle g).1.1.lines ∧
      ((extent opening' inside').shuffle g).2 = ((extent opening inside).shuffle g).2 := by
  have objects := inserted.runs (.of_tellsLandmark .isLabel)
  obtain ⟨shuffled, drawn⟩ := Random.shuffle_related objects g
  rw [shuffle, shuffle]
  dsimp only
  rw [← objects.length_eq]
  split
  · exact ⟨.keep free same inserted, rfl⟩
  · exact ⟨.keep free same (.flatten shuffled), drawn⟩

theorem traverse_cut_inserted (segment : DataSegment) {lines lines' : List Line}
    (inserted : Inserted ins lines lines') (behind : ∀ line ∈ lines.tail, line.number ≠ 0)
    (behind' : ∀ line ∈ lines'.tail, line.number ≠ 0) (g : G) :
    Inserted ins ((Random.traverse shuffle (cut segment lines) g).1.flatMap (·.1.lines))
        ((Random.traverse shuffle (cut segment lines') g).1.flatMap (·.1.lines)) ∧
      (Random.traverse shuffle (cut segment lines') g).2 =
        (Random.traverse shuffle (cut segment lines) g).2 := by
  have opener := Overlooks.of_tellsLandmark (.isOpenedBy segment)
  fun_induction cut segment lines generalizing lines' g with
  | case1 =>
      cases inserted
      rw [cut]
      exact ⟨.nil, rfl⟩
  | case2 line rest opens ih =>
      cases inserted with
      | put put _ _ =>
          rw [Insertion.front_eq_none opener opens] at put
          contradiction
      | @keep _ line' _ rest' free same later =>
          rw [List.tail_cons] at behind behind'
          have opens' : segment.isOpenedBy line' = true := (opener.eq_of_content same).trans opens
          obtain ⟨taken, dropped⟩ := later.span (.of_tellsLandmark .isTextBoundary)
          rw [← (span_isBoundary behind).1, ← (span_isBoundary behind').1] at taken
          rw [← (span_isBoundary behind).2, ← (span_isBoundary behind').2] at dropped
          obtain ⟨own, drawn⟩ := shuffle_inserted free same taken g
          obtain ⟨others, after⟩ := ih dropped
            (fun other member => behind other
              ((List.dropWhile_sublist _).mem (List.mem_of_mem_tail member)))
            (fun other member => behind' other
              ((List.dropWhile_sublist _).mem (List.mem_of_mem_tail member)))
            ((extent line (rest.takeWhile (!·.isBoundary))).shuffle g).2
          rw [cut, if_pos opens']
          simp only [Random.traverse, List.flatMap_cons, drawn]
          exact ⟨own.append others, after⟩
  | case3 line rest closed ih =>
      have later : ∀ {others : List Line}, (∀ other ∈ others, other.number ≠ 0) →
          ∀ other ∈ others.tail, other.number ≠ 0 :=
        fun every other member => every other (List.mem_of_mem_tail member)
      cases inserted with
      | @keep _ line' _ rest' free same rests =>
          have closed' : ¬segment.isOpenedBy line' = true := by rwa [opener.eq_of_content same]
          obtain ⟨others, after⟩ := ih rests (later behind) (later behind') g
          rw [cut, if_neg closed']
          exact ⟨.keep free same others, after⟩
      | @put _ new line' _ rest' put same rests =>
          obtain ⟨-, plain, closed'⟩ := Insertion.false_of_put opener put same
          obtain ⟨others, after⟩ := ih rests (later behind) (later (later behind')) g
          rw [cut, if_neg (by simp [plain]), cut, if_neg (by simp [closed'])]
          exact ⟨.put put same others, after⟩

end SegmentPart

/-- No line of a section but its first one is numbered zero. -/
def Section.PositiveBehind (sec : Section) : Prop :=
  ∀ line ∈ sec.lines.tail, line.number ≠ 0

theorem Section.shuffleSegment_filled {ins : Insertion} (segment : DataSegment)
    {sec filled : Section} (fills : Filled ins sec filled) (behind : sec.PositiveBehind)
    (behind' : filled.PositiveBehind) (g : G) :
    Filled ins (sec.shuffleSegment segment g).1.1 (filled.shuffleSegment segment g).1.1 ∧
      (filled.shuffleSegment segment g).2 = (sec.shuffleSegment segment g).2 := by
  obtain ⟨inserted, drawn⟩ :=
    SegmentPart.traverse_cut_inserted segment fills.lines behind behind' g
  exact ⟨fills.edit inserted, drawn⟩

end AsmLayout
