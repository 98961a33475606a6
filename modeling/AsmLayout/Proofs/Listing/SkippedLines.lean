import AsmLayout.Proofs.Listing.Edits
import AsmLayout.Proofs.Listing.Numbering
import AsmLayout.Proofs.Section.LeftOver
import AsmLayout.Random.Keystream

/-! # The lines that reports of padding name

A report tells why functions were skipped, and for some reasons the line. Lines are named by the
numbers that they had when padding began, which are their places in the whole listing, wherever the
section and the function stand. Only a leave that is left over is named by a place in its function.
-/

namespace AsmLayout

/-- What a report says about an extent. -/
inductive Extent.Told (sec : Section) (amount : Nat) : Extent → FrameOutcome → Prop where
  /-- A function end without a label is named by its number. -/
  | orphan {position : Nat} {line : Line} (there : sec.lines[position]? = some line) :
      Told sec amount (.orphan position) (.skipped (.missingLabel line.number))
  | padded {start stop : Nat} {result : Frame.Padded}
      (answers : Frame.Answers sec.dialect amount (slice sec.lines start stop) (.ok result)) :
      Told sec amount (.function start stop)
        (.padded (Frame.functionName (slice sec.lines start stop)) amount result.returns)
  | skipped {start stop : Nat} {reason : SkipReason}
      (answers : Frame.Answers sec.dialect amount (slice sec.lines start stop) (.error reason)) :
      Told sec amount (.function start stop) (.skipped reason)

theorem Extent.told_outcome {sec : Section} {extent : Extent}
    (found : extent ∈ scan sec.lines 0) (amount : Nat) :
    Told sec amount extent (outcome sec.dialect amount sec.lines extent) := by
  cases extent with
  | orphan position =>
      have inside : position < sec.lines.length := (bounds_of_mem_scan found).2.2
      have there : sec.lines[position]? = some sec.lines[position] := List.getElem?_eq_getElem inside
      rw [outcome, numberAt, there]
      exact .orphan there
  | function start stop =>
      have met := function_mem_cut found
      rw [List.drop_zero] at met
      have answers :=
        Frame.pad_answers (FramePart.closed_of_mem_cut met).1 sec.dialect amount
      simp only [outcome, Extent.start, Extent.stop]
      cases pads : Frame.pad sec.dialect amount (slice sec.lines start stop) with
      | ok result => exact .padded (pads ▸ answers)
      | error reason => exact .skipped (pads ▸ answers)

namespace Section

inductive Reports (sec : Section) (amount : Nat) : List FrameOutcome → Prop where
  /-- Without any extent the section itself is named, by its first number. -/
  | unlabelled (none : Extent.scan sec.lines 0 = []) :
      Reports sec amount [.skipped (.missingLabel sec.firstNumber)]
  | extents {report : List FrameOutcome} (some : Extent.scan sec.lines 0 ≠ [])
      (each : List.Forall₂ (Extent.Told sec (alignDown amount)) (Extent.scan sec.lines 0) report) :
      Reports sec amount report

theorem padFrames_reports (sec : Section) (amount : Nat) :
    sec.Reports amount (sec.padFrames amount).2 := by
  let outcomes := (FramePart.padAll sec.dialect (alignDown amount) sec.lines).2
  have told := Extent.map_outcome_scan sec.dialect (alignDown amount) sec.lines 0
  have report : (sec.padFrames amount).2 =
      if outcomes.isEmpty then [.skipped (.missingLabel sec.firstNumber)] else outcomes := rfl
  rw [report, show outcomes = _ from told.symm, List.isEmpty_map]
  split
  · rename_i none
    exact .unlabelled (List.isEmpty_iff.mp none)
  · rename_i some
    refine .extents (fun none => some (List.isEmpty_iff.mpr none)) ?_
    rw [List.forall₂_map_right_iff, List.forall₂_same]
    intro extent found
    exact Extent.told_outcome found (alignDown amount)

/-- The report of a section within a listing. Only functions are padded, by an amount in the range. -/
def ReportsWithin (range : Random.Interval) (sec : Section) (report : List FrameOutcome) : Prop :=
  if !range.isEmpty && sec.isFunction then
    ∃ amount, range.low ≤ amount ∧ amount < range.high ∧ sec.Reports amount report
  else report = []

end Section

namespace Listing

variable {G : Type} [Random.Generator G]

theorem padFrames_reports (range : Random.Interval) (listing : Listing) (g : G) :
    ∃ reports, (listing.padFrames range g).1.2 = reports.flatten ∧
      List.Forall₂ (Section.ReportsWithin range) listing.sections reports := by
  cases empty : range.isEmpty with
  | true =>
      refine ⟨listing.sections.map fun _ => [], ?_, ?_⟩
      · rw [padFrames, if_pos empty]
        simp
      · rw [List.forall₂_map_right_iff, List.forall₂_same]
        intro sec _
        rw [Section.ReportsWithin, empty]
        rfl
  | false =>
      refine ⟨(Random.traverse (padFramesOf range) listing.sections g).1.map (·.2), ?_, ?_⟩
      · rw [padFrames, if_neg (by simp [empty])]
        exact List.flatMap_def ..
      · rw [List.forall₂_map_right_iff]
        apply Random.traverse_forall₂
        intro sec g
        rw [Section.ReportsWithin, padFramesOf, empty, Bool.not_false, Bool.true_and]
        split
        · obtain ⟨low, high⟩ := Random.inInterval_lt empty g
          exact ⟨_, low, high, sec.padFrames_reports _⟩
        · rfl

/-- Padding a listing reports on its sections one by one, and a reason with a line tells the number
    that this line has in the listing; for a function the line stands inside it. Only a leave that is
    left over is told by the place of its frame pop in the written-out function. That is its number
    exactly where the function starts at one more than the number of leaves in front of it. -/
theorem skipped_lines_told {start : Listing} (built : start.Built) (edits : List (Edit × G))
    (range : Random.Interval) (g : G) :
    let listing := start.edited edits
    (∃ reports, (listing.padFrames range g).1.2 = reports.flatten ∧
      List.Forall₂ (Section.ReportsWithin range) listing.sections reports) ∧
    listing.lines.map (·.number) = List.range listing.lineCount ∧
    ∀ sec ∈ listing.sections, ∀ start stop front line back,
      Extent.slice sec.lines start stop = front ++ line :: back →
        start + front.length < stop ∧ line.number = sec.firstNumber + (start + front.length) ∧
        (Frame.toldNumber front line = line.number ↔
          (line.isLeave = true → sec.firstNumber + start = front.countP Line.isLeave + 1)) := by
  intro listing
  have partitioned : listing.Partitioned := built.partitioned.edited edits
  refine ⟨listing.padFrames_reports range g, partitioned.dense, ?_⟩
  intro sec member start stop front line back split
  have there : (Extent.slice sec.lines start stop)[front.length]? = some line := by
    rw [split, List.getElem?_append_right (Nat.le_refl _), Nat.sub_self, List.getElem?_cons_zero]
  have number : line.number = sec.firstNumber + (start + front.length) :=
    Extent.number_of_slice (partitioned.dense_of_mem member) (by rw [there, Option.map_some])
  have inside : start + front.length < stop := by
    obtain ⟨bound, -⟩ := List.getElem?_eq_some_iff.mp there
    rw [Extent.slice, List.length_take] at bound
    omega
  refine ⟨inside, number, ?_⟩
  rw [Frame.toldNumber]
  cases line.isLeave with
  | false => simp
  | true =>
      simp only [↓reduceIte, forall_const]
      omega

/-- A leave near the front of a listing, a return, and a frame pop are told by their numbers. -/
theorem skipped_lines_told_of_three :
    let contents := ["\t.text", "f:", "\tpushq %rbp", "\tleave", "\tjmp g", "\t.cfi_endproc", "g:",
      "\tpushq %rbp", "\tret", "\t.cfi_endproc", "h:", "\tpushq %rbp", "\tpopq %rbp", "\tjmp g",
      "\t.cfi_endproc"]
    let sec : Section := .ofLines .gcc (Line.numbered 0 contents)
    let g : Random.Keystream := ⟨Vector.replicate 8 0, 0, [0, 0]⟩
    let listing := (⟨.gcc, [sec]⟩ : Listing).edited [(.renumber, g)]
    let report := [.skipped (.unpatchedEpilogue "f" 3), .skipped (.missingEpilogue "g" 8),
      .skipped (.unpatchedEpilogue "h" 12)]
    ofLines contents = .ok ⟨.gcc, [sec]⟩ ∧ listing.sections = [sec] ∧
    Extent.scan sec.lines 0 = [.function 1 6, .function 6 10, .function 10 15] ∧
    (listing.padFrames ⟨16, 17⟩ g).1.2 = report ∧ sec.Reports 16 report ∧
    Frame.toldNumber [⟨"f:", 1⟩, ⟨"\tpushq %rbp", 2⟩] ⟨"\tleave", 3⟩ = 3 := by
  intro contents sec g listing report
  have made : ofLines contents = .ok ⟨.gcc, [sec]⟩ := by decide +kernel
  have single : listing.sections = [sec] := by decide +kernel
  have extents : Extent.scan sec.lines 0 = [.function 1 6, .function 6 10, .function 10 15] := by
    decide +kernel
  have outcomes : (listing.padFrames ⟨16, 17⟩ g).1.2 = report := by decide +kernel
  obtain ⟨⟨reports, flattened, each⟩, -, numbers⟩ :=
    skipped_lines_told (.of_lines made) [(.renumber, g)] ⟨16, 17⟩ g
  rw [single] at each
  obtain ⟨own, _, within, none, rfl⟩ := List.forall₂_cons_left_iff.mp each
  cases none
  rw [outcomes, List.flatten_cons, List.flatten_nil, List.append_nil] at flattened
  rw [Section.ReportsWithin, if_pos (by decide +kernel)] at within
  obtain ⟨amount, low, high, told⟩ := within
  obtain rfl : amount = 16 := Nat.le_antisymm (Nat.lt_succ_iff.mp high) low
  have member : sec ∈ listing.sections := by
    rw [single]
    exact List.mem_singleton_self sec
  have leave := numbers sec member 1 6 [⟨"f:", 1⟩, ⟨"\tpushq %rbp", 2⟩] ⟨"\tleave", 3⟩
    [⟨"\tjmp g", 4⟩, ⟨"\t.cfi_endproc", 5⟩] (by decide +kernel)
  exact ⟨made, single, extents, outcomes, flattened ▸ told,
    leave.2.2.mpr fun _ => by decide +kernel⟩

/-- A leave that is left over in the second function is told as a line of the first. -/
theorem leave_told_elsewhere :
    let text := "\t.text\ng:\n\tpushq %rbp\n\tpopq %rbp\n\tret\n\t.cfi_endproc\nf:\n" ++
      "\tpushq %rbp\n\tleave\n\tjmp g\n\t.cfi_endproc\n"
    let contents := ["\t.text", "g:", "\tpushq %rbp", "\tpopq %rbp", "\tret", "\t.cfi_endproc", "f:",
      "\tpushq %rbp", "\tleave", "\tjmp g", "\t.cfi_endproc"]
    let sec : Section := .ofLines .gcc (Line.numbered 0 contents)
    let g : Random.Keystream := ⟨Vector.replicate 8 0, 0, [0, 0]⟩
    let listing : Listing := ⟨.gcc, [sec]⟩
    parse text = .ok listing ∧
    Extent.scan sec.lines 0 = [.function 1 6, .function 6 11] ∧
    (listing.padFrames ⟨16, 17⟩ g).1.2 = [.padded "g" 16 1, .skipped (.unpatchedEpilogue "f" 3)] ∧
    Frame.isLeftOver 16 [⟨"f:", 6⟩, ⟨"\tpushq %rbp", 7⟩] ⟨"\tleave", 8⟩
      [⟨"\tjmp g", 9⟩, ⟨"\t.cfi_endproc", 10⟩] = true ∧
    sec.lines[8]? = some ⟨"\tleave", 8⟩ ∧ sec.lines[3]? = some ⟨"\tpopq %rbp", 3⟩ := by
  decide +kernel

end Listing

end AsmLayout
