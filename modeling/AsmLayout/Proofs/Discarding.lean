import AsmLayout.Proofs.Listing.Arrangement
import AsmLayout.Proofs.Listing.Edits
import AsmLayout.Proofs.Listing.Numbering
import AsmLayout.Proofs.Section.Unchanged
import AsmLayout.Transform

/-! # Discarding the edit of a transform that reports no change

A sequence throws away what a transform made of its copy of the listing when the transform reports
no change. Nothing is lost by it: on a partitioned listing, a transform that reports no change has
made none, down to the numbers of the lines. So a sequence ends where the transforms would end that
are applied in place, and with the same draws behind it.
-/

namespace AsmLayout

namespace Listing

variable {G : Type} [Random.Generator G] {listing : Listing}

theorem sameText_of_eq_nil {α β : Type} (report : α → List β) {sections : List Section}
    {edits : List (Section × α)}
    (each : List.Forall₂ (fun sec edit => report edit.2 = [] → edit.1.SameText sec) sections edits)
    (none : edits.flatMap (report ·.2) = []) :
    List.Forall₂ (fun sec edit => edit.1.SameText sec) sections edits := by
  induction each with
  | nil => exact .nil
  | cons first _ ih =>
      obtain ⟨own, later⟩ := List.append_eq_nil_iff.mp none
      exact .cons (first own) (ih later)

theorem Partitioned.padAllocations_eq (partitioned : listing.Partitioned) {range : Random.Interval}
    {width : PointerWidth} {g : G} (none : (listing.padAllocations range width g).1.2.flatten = []) :
    (listing.padAllocations range width g).1.1 = listing := by
  refine partitioned.withEdits_eq (partitioned.padAllocations range width g) ?_
  apply sameText_of_eq_nil id
  · exact Random.traverse_forall₂ (fun sec g => sec.padAllocations_sameText) _ g
  · rwa [List.flatMap_def]

theorem Partitioned.shuffleSegment_eq (partitioned : listing.Partitioned) {segment : DataSegment}
    {g : G} (none : (listing.shuffleSegment segment g).1.2 = []) :
    (listing.shuffleSegment segment g).1.1 = listing := by
  refine partitioned.withEdits_eq (partitioned.shuffleSegment segment g) ?_
  apply sameText_of_eq_nil id
  · exact Random.traverse_forall₂ (fun sec g => sec.shuffleSegment_sameText) _ g
  · exact none

theorem padFramesOf_sameText {range : Random.Interval} {sec : Section} {g : G}
    (none : paddedNames (padFramesOf range sec g).1.2 = []) :
    (padFramesOf range sec g).1.1.SameText sec := by
  unfold padFramesOf at none ⊢
  split
  · rename_i function
    rw [if_pos function] at none
    exact Section.padFrames_sameText none
  · exact .refl sec

theorem Partitioned.padFrames_eq (partitioned : listing.Partitioned) {range : Random.Interval}
    {g : G} (none : paddedNames (listing.padFrames range g).1.2 = []) :
    (listing.padFrames range g).1.1 = listing := by
  have edited := partitioned.padFrames range g
  unfold Listing.padFrames at none edited ⊢
  split
  · rfl
  · rename_i filled
    rw [if_neg filled] at none edited
    refine partitioned.withEdits_eq edited ?_
    apply sameText_of_eq_nil paddedNames
    · exact Random.traverse_forall₂ (fun sec g => padFramesOf_sameText) _ g
    · rwa [← paddedNames_flatMap]

end Listing

namespace Transform

variable {G : Type} [Random.Generator G] {listing : Listing}

def edit : Transform → Listing.Edit
  | reorder mode => .reorder mode
  | padAllocations bound width => .padAllocations ⟨0, bound⟩ width
  | padFrames bound => .padFrames ⟨0, bound⟩
  | shuffleSegment segment => .shuffleSegment segment

theorem apply_eq_edit (transform : Transform) (listing : Listing) (g : G) :
    (transform.apply listing g).1.1 = transform.edit.apply listing g := by
  cases transform <;> rfl

theorem partitioned_apply (partitioned : listing.Partitioned) (transform : Transform) (g : G) :
    (transform.apply listing g).1.1.Partitioned := by
  rw [apply_eq_edit]
  exact partitioned.apply transform.edit g

theorem dialect_apply (transform : Transform) (listing : Listing) (g : G) :
    (transform.apply listing g).1.1.dialect = listing.dialect := by
  rw [apply_eq_edit]
  exact transform.edit.dialect_apply listing g

theorem apply_eq_of_isChange_eq_false (partitioned : listing.Partitioned) {transform : Transform}
    {g : G} (unreported : (transform.apply listing g).1.2.isChange = false) :
    (transform.apply listing g).1.1 = listing := by
  cases transform with
  | reorder mode => exact Listing.reorder_eq unreported
  | padAllocations bound width =>
      apply partitioned.padAllocations_eq
      exact List.eq_nil_of_length_eq_zero (Nat.eq_zero_of_not_pos (of_decide_eq_false unreported))
  | padFrames bound =>
      apply partitioned.padFrames_eq
      simpa [apply, Effect.isChange, paddedNames] using unreported
  | shuffleSegment segment =>
      apply partitioned.shuffleSegment_eq
      simpa [apply, Effect.isChange] using unreported

/-- The listing and the generator after transforms that are applied in place, one after the other. -/
def inPlace (transforms : List Transform) (listing : Listing) (g : G) : Listing × G :=
  transforms.foldl (fun (listing, g) transform =>
    let ((after, _), g) := transform.apply listing g
    (after, g)) (listing, g)

theorem runAll_cons_eq (partitioned : listing.Partitioned) (transform : Transform)
    (rest : List Transform) (g : G) :
    runAll (transform :: rest) listing g =
      let ((edited, effect), g) := transform.apply listing g
      let ((final, steps), g) := runAll rest edited g
      ((final, ⟨transform, effect, listing.lineCount, edited.lineCount⟩ :: steps), g) := by
  rw [runAll]
  dsimp only
  split
  · rfl
  · rename_i unreported
    rw [apply_eq_of_isChange_eq_false partitioned (eq_false_of_ne_true unreported)]

/-- A sequence ends with the listing and the generator that its transforms lead to in place. A
    transform that it does not count as a change was given a listing that it left as it was. -/
theorem runAll_eq_inPlace {start : Listing} (built : start.Built) (edits : List (Listing.Edit × G))
    (transforms : List Transform) (g : G) :
    let listing := start.edited edits
    let ran := runAll transforms listing g
    (ran.1.1, ran.2) = inPlace transforms listing g ∧ ran.1.2.map (·.transform) = transforms ∧
    ∀ (index : Nat) (step : Step), ran.1.2[index]? = some step →
      let given := inPlace (transforms.take index) listing g
      step.effect = (step.transform.apply given.1 given.2).1.2 ∧
      (step.effect.isChange = false → (step.transform.apply given.1 given.2).1.1 = given.1) := by
  intro listing
  have partitioned : listing.Partitioned := built.partitioned.edited edits
  revert partitioned
  generalize listing = current
  intro partitioned
  induction transforms generalizing current g with
  | nil => exact ⟨rfl, rfl, fun index step there => by contradiction⟩
  | cons transform rest ih =>
      obtain ⟨ends, listed, each⟩ := ih (transform.apply current g).2 _
        (partitioned_apply partitioned transform g)
      rw [runAll_cons_eq partitioned]
      refine ⟨ends, congrArg (transform :: ·) listed, ?_⟩
      intro index step there
      cases index with
      | zero =>
          rw [List.getElem?_cons_zero, Option.some.injEq] at there
          subst there
          exact ⟨rfl, apply_eq_of_isChange_eq_false partitioned⟩
      | succ index => exact each index step there

/-- A reordering draws the order that is there, and every function is rolled back; then a call is
    padded. -/
theorem runAll_eq_inPlace_after_rollback :
    let start : Listing := ⟨.gcc, Listing.partition .gcc (Line.numbered 0 ["\t.cfi_sections .eh",
      "\t.text", "f:", "\tcall malloc", "\tpushq %rbp", "\tret", "\t.cfi_endproc", "\t.data", "x:",
      "\t.bss", "y:", "\t.text"])⟩
    let g : Random.Keystream :=
      ⟨Vector.replicate 8 0, 0, [0, 0x80000000, 0, 0x80000000, 0, 0x80000000]⟩
    let transforms := [reorder .smallChanges, padFrames 40, padAllocations 9 .bits64]
    let step : Step := ⟨padFrames 40, .frames [.skipped (.missingEpilogue "f" 5),
      .skipped (.truncated "x"), .skipped (.truncated "y")], 12, 12⟩
    let listing := start.edited [(.renumber, g)]
    let ran := runAll transforms listing g
    let given := inPlace (transforms.take 1) listing g
    Listing.parse ("\t.cfi_sections .eh\n\t.text\nf:\n\tcall malloc\n\tpushq %rbp\n\tret\n" ++
      "\t.cfi_endproc\n\t.data\nx:\n\t.bss\ny:\n\t.text\n") = .ok start ∧
    ran.1.2.map (·.effect.isChange) = [false, false, true] ∧ ran.1.2[1]? = some step ∧
    (ran.1.1, ran.2) = inPlace transforms listing g ∧
    (step.transform.apply given.1 given.2).1.1 = given.1 := by
  intro start g transforms step
  have parsed : Listing.parse ("\t.cfi_sections .eh\n\t.text\nf:\n\tcall malloc\n\tpushq %rbp\n" ++
      "\tret\n\t.cfi_endproc\n\t.data\nx:\n\t.bss\ny:\n\t.text\n") = .ok start := by decide +kernel
  have every := runAll_eq_inPlace (.of_text parsed) [(.renumber, g)] transforms g
  -- Without the names the two sides are the same text, and nothing has to be run to compare them.
  dsimp only at every ⊢
  have skipped : (runAll transforms (start.edited [(.renumber, g)]) g).1.2[1]? = some step := by
    decide +kernel
  exact ⟨parsed, by decide +kernel, skipped, every.1, (every.2.2 1 step skipped).2 rfl⟩

end Transform

end AsmLayout
