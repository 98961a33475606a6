import AsmLayout.Proofs.Discarding
import AsmLayout.Proofs.Listing.Reparsing
import AsmLayout.Proofs.Pipeline

/-! # Randomized listings parsed again

Transforms move lines about and put in instructions, each of them on a line of its own. None of this
brings in a landmark or takes one away, so the text of a listing stays readable: parsed again, it gives
the sections that the transforms left.
-/

namespace AsmLayout

/-- The texts that paddings put in. -/
inductive IsPadding : String → Prop where
  | adjustment (width : PointerWidth) (amount : Nat) : IsPadding (width.sizeAdjustment amount)
  | restore : IsPadding "\tmovq %rbp, %rsp"
  | pop : IsPadding "\tpopq %rbp"
  | growth (amount : Nat) : IsPadding (Frame.growth amount)
  | release (amount : Nat) : IsPadding (Frame.release amount)

namespace IsPadding

theorem oneLine {content : String} (padding : IsPadding content) : Text.OneLine content.toList := by
  cases padding with
  | adjustment width amount =>
      cases width with
      | bits64 =>
          have spelling : (PointerWidth.bits64.sizeAdjustment amount).toList =
              "\taddq $".toList ++ ((toString amount).toList ++ ", %rdi".toList) := by
            simp [PointerWidth.sizeAdjustment, toString]
          rw [spelling]
          exact .of_digits (by decide) (by decide) rfl (by decide) amount
      | bits32 =>
          have spelling : (PointerWidth.bits32.sizeAdjustment amount).toList =
              "\tadd $".toList ++ ((toString amount).toList ++ ", %edi".toList) := by
            simp [PointerWidth.sizeAdjustment, toString]
          rw [spelling]
          exact .of_digits (by decide) (by decide) rfl (by decide) amount
  | restore => exact .of_getLast? (by decide) (show _ = some 'p' by decide) (by decide)
  | pop => exact .of_getLast? (by decide) (show _ = some 'p' by decide) (by decide)
  | growth amount =>
      have spelling : (Frame.growth amount).toList =
          "\tsubq $".toList ++ ((toString amount).toList ++ ", %rsp".toList) := by
        simp [Frame.growth, toString]
      rw [spelling]
      exact .of_digits (by decide) (by decide) rfl (by decide) amount
  | release amount =>
      have spelling : (Frame.release amount).toList =
          "\taddq $".toList ++ ((toString amount).toList ++ ", %rsp".toList) := by
        simp [Frame.release, toString]
      rw [spelling]
      exact .of_digits (by decide) (by decide) rfl (by decide) amount

theorem of_mem_gains {exchange : Exchange} {amount : Nat} {content : String}
    (gained : content ∈ exchange.gains amount) : IsPadding content := by
  simp only [Exchange.gains, Multiset.mem_add] at gained
  rcases gained with ((restored | popped) | grown) | released
  · rw [Multiset.eq_of_mem_replicate restored]
    exact .restore
  · rw [Multiset.eq_of_mem_replicate popped]
    exact .pop
  · rw [Multiset.eq_of_mem_replicate grown]
    exact .growth amount
  · rw [Multiset.eq_of_mem_replicate released]
    exact .release amount

end IsPadding

/-- Lines in which the landmarks are those that there were, and all else that is new is padding. -/
structure Rewritten (before after : List Line) : Prop where
  landmarks : ∀ {p : Line → Bool}, TellsLandmark p → after.any p = before.any p
  texts : ∀ content ∈ bag after, content ∈ bag before ∨ IsPadding content

namespace Rewritten

variable {before after : List Section}

theorem refl (lines : List Line) : Rewritten lines lines :=
  ⟨fun _ => rfl, fun _ => .inl⟩

theorem append {xs xs' ys ys' : List Line} (left : Rewritten xs xs') (right : Rewritten ys ys') :
    Rewritten (xs ++ ys) (xs' ++ ys') where
  landmarks tells := by
    rw [List.any_append, List.any_append, left.landmarks tells, right.landmarks tells]
  texts content listed := by
    rw [bag_append, Multiset.mem_add] at listed ⊢
    rcases listed with front | back
    · exact (left.texts content front).imp_left .inl
    · exact (right.texts content back).imp_left .inr

theorem of_reshaped {sec edited : Section} (reshaped : sec.Reshaped edited)
    (texts : ∀ content ∈ bag edited.lines, content ∈ bag sec.lines ∨ IsPadding content) :
    Rewritten sec.lines edited.lines :=
  ⟨fun tells => reshaped.lines.any_eq tells, texts⟩

theorem of_sameText {lines : List Line} {edited sec : Section}
    (rewritten : Rewritten lines edited.lines) (same : sec.SameText edited) :
    Rewritten lines sec.lines where
  landmarks tells := by rw [tells.any_eq_of_contents same.contents, rewritten.landmarks tells]
  texts := by
    rw [same.bag]
    exact rewritten.texts

theorem flatMap (each : List.Forall₂ (fun sec sec' => Rewritten sec.lines sec'.lines) before after) :
    Rewritten (before.flatMap (·.lines)) (after.flatMap (·.lines)) := by
  induction each with
  | nil => exact .refl []
  | cons first _ ih => exact first.append ih

theorem of_rearranged {origin : Nat → Nat} (rearranged : Rearranged origin before after) :
    Rewritten (before.flatMap (·.lines)) (after.flatMap (·.lines)) where
  landmarks {p} tells := by
    have told := rearranged.map_perm (f := fun sec => sec.lines.any p) fun same =>
      tells.any_eq_of_contents same.contents
    have each (sections : List Section) : (sections.flatMap (·.lines)).any p =
        (sections.map fun sec => sec.lines.any p).any id := by
      rw [List.any_flatMap, List.any_map]
      rfl
    rw [each, each, told.any_eq]
  texts content listed := by
    have texts := rearranged.map_perm (f := Section.contents) fun same => same.contents
    have all (sections : List Section) :
        bag (sections.flatMap (·.lines)) = ((sections.map Section.contents).flatten : List String) := by
      rw [bag, List.map_flatMap, ← List.flatMap_def]
      rfl
    rw [all, Multiset.coe_eq_coe.mpr texts.flatten, ← all] at listed
    exact .inl listed

end Rewritten

variable {G : Type} [Random.Generator G]

namespace Section

theorem padAllocations_rewritten (bound : Nat) (width : PointerWidth) (sec : Section) (g : G) :
    Rewritten sec.lines (sec.padAllocations ⟨0, bound⟩ width g).1.1.lines := by
  refine .of_reshaped (sec.padAllocations_reshaped _ width g) ?_
  intro content listed
  rw [(sec.padAllocations_adjusted bound width g).texts, Multiset.mem_add] at listed
  rcases listed with old | new
  · exact .inl old
  · obtain ⟨amount, -, rfl⟩ := Multiset.mem_map.mp new
    exact .inr (.adjustment width amount)

theorem padFrames_rewritten (amount : Nat) (sec : Section) :
    Rewritten sec.lines (sec.padFrames amount).1.lines := by
  refine .of_reshaped (sec.padFrames_reshaped amount) ?_
  intro content listed
  have exchanged : content ∈ bag sec.lines + (sec.frameExchange amount).gains (alignDown amount) := by
    rw [← (sec.padFrames_balances amount).texts]
    exact Multiset.mem_add.mpr (.inl listed)
  exact (Multiset.mem_add.mp exchanged).imp_right IsPadding.of_mem_gains

theorem shuffleSegment_rewritten (segment : DataSegment) (sec : Section) (g : G) :
    Rewritten sec.lines (sec.shuffleSegment segment g).1.1.lines := by
  refine .of_reshaped (sec.shuffleSegment_reshaped segment g) ?_
  intro content listed
  rw [sec.bag_shuffleSegment] at listed
  exact .inl listed

end Section

namespace Listing

variable {listing : Listing}

theorem rewritten_withEdits {α : Type} {edits : List (Section × α)}
    (each : List.Forall₂ (fun sec edit => Rewritten sec.lines edit.1.lines) listing.sections edits) :
    Rewritten listing.lines (listing.withEdits edits).lines :=
  .flatMap (renumberFrom_related each (fun rewritten same => rewritten.of_sameText same) 0)

theorem padFramesOf_rewritten (range : Random.Interval) (sec : Section) (g : G) :
    Rewritten sec.lines (padFramesOf range sec g).1.1.lines := by
  unfold padFramesOf
  split
  · exact sec.padFrames_rewritten _
  · exact .refl sec.lines

theorem Readable.of_rewritten {after : Listing} (readable : listing.Readable)
    (partitioned : after.Partitioned) (dialect : after.dialect = listing.dialect)
    (rewritten : Rewritten listing.lines after.lines) : after.Readable where
  partitioned := partitioned
  detected := by
    rw [dialect]
    exact detect_of_any_eq readable.detected (rewritten.landmarks .isBeginMarker)
      (rewritten.landmarks .isCallFrame)
  oneLine line member := by
    have listed : line.content ∈ bag after.lines := Multiset.mem_coe.mpr (List.mem_map_of_mem member)
    rcases rewritten.texts line.content listed with old | new
    · obtain ⟨former, stood, same⟩ := List.mem_map.mp (Multiset.mem_coe.mp old)
      rw [Line.chars, ← same]
      exact readable.oneLine former stood
    · exact new.oneLine

end Listing

namespace Transform

variable {listing : Listing}

theorem rewritten_apply (transform : Transform) (listing : Listing) (g : G) :
    Rewritten listing.lines (transform.apply listing g).1.1.lines := by
  cases transform with
  | reorder mode => exact .of_rearranged (listing.rearranged_reorder mode g)
  | padAllocations bound width =>
      apply Listing.rewritten_withEdits
      apply Random.traverse_forall₂
      intro sec g
      exact sec.padAllocations_rewritten bound width g
  | padFrames bound =>
      dsimp only [apply, Listing.padFrames]
      split
      · exact .refl listing.lines
      · apply Listing.rewritten_withEdits
        apply Random.traverse_forall₂
        intro sec g
        exact Listing.padFramesOf_rewritten ⟨0, bound⟩ sec g
  | shuffleSegment segment =>
      apply Listing.rewritten_withEdits
      apply Random.traverse_forall₂
      intro sec g
      exact sec.shuffleSegment_rewritten segment g

theorem readable_apply (readable : listing.Readable) (transform : Transform) (g : G) :
    (transform.apply listing g).1.1.Readable :=
  readable.of_rewritten (partitioned_apply readable.partitioned transform g)
    (transform.dialect_apply listing g) (transform.rewritten_apply listing g)

/-- Whatever transforms run on a listing, its text stays readable, and its dialect as it was. -/
theorem readable_runAll (readable : listing.Readable) (transforms : List Transform) (g : G) :
    (runAll transforms listing g).1.1.Readable ∧
      (runAll transforms listing g).1.1.dialect = listing.dialect := by
  induction transforms generalizing listing g with
  | nil => exact ⟨readable, rfl⟩
  | cons transform rest ih =>
      have kept : (transform.kept listing g).Readable ∧
          (transform.kept listing g).dialect = listing.dialect := by
        rw [kept]
        split
        · exact ⟨readable_apply readable transform g, transform.dialect_apply listing g⟩
        · exact ⟨readable, rfl⟩
      obtain ⟨after, dialect⟩ := ih kept.1 (transform.apply listing g).2
      rw [runAll_cons]
      exact ⟨after, dialect.trans kept.2⟩

end Transform

namespace Config

variable {G : Type} [Random.Generator G]

/-- The text of a randomized listing gives its sections again: as many of them, of the same kinds, each
    with the lines that are written of it and a separator behind all but the last. -/
theorem parse_render_runAll {text : String} {listing : Listing}
    (parsed : Listing.parse text = .ok listing) (config : Config) (mode : StructureMode)
    (width : PointerWidth) (g : G) :
    let after := (Transform.runAll (config.transforms mode width) listing g).1.1
    ∃ again, Listing.parse after.render = .ok again ∧ again.dialect = listing.dialect ∧
      again.sections.length = after.sections.length ∧
      ∀ place sec, after.sections[place]? = some sec →
        ∃ sec', again.sections[place]? = some sec' ∧ sec'.kind = sec.kind ∧
          sec'.contents = (if sec.writtenLines.isEmpty then [""] else sec.writtenLines) ++
            if place + 1 < after.sections.length then [Listing.separator] else [] := by
  intro after
  obtain ⟨readable, dialect⟩ := Transform.readable_runAll (Listing.readable_of_parse parsed)
    (config.transforms mode width) g
  refine ⟨_, readable.parse_render, dialect, ?_, ?_⟩
  · have blocks := congrArg List.length readable.contents_partition
    rwa [List.length_map, Listing.length_separated, List.length_map] at blocks
  · intro place sec there
    have reparsed := readable.section_reparsed there
    rwa [Section.textLines] at reparsed

/-- Of the first section nothing is written, and the next one is a blank line; it changes places with a
    block of data, and a function is padded. -/
theorem parse_render_runAll_with_all_on :
    let listing : Listing := ⟨.libfirm, Listing.partition .libfirm (Line.numbered 0 ["\t.loc 1 1",
      "", "", "\t.data", "x:", "\t.long 1", "y:", "\t.long 2", "", "# -- Begin f", "f:",
      "\tpushq %rbp", "\t.loc 1 2", "\tcall malloc", "\tleave", "\tret"])⟩
    let config : Config := { heap := 9, stack := 40, fileStructure := true, data := true }
    let g : Random.Keystream :=
      ⟨Vector.replicate 8 0, 0, [0, 0, 0, 0x80000000, 0, 0x80000000, 0, 0, 0, 0, 0]⟩
    let after := (Transform.runAll (config.transforms .smallChanges .bits64) listing g).1.1
    Listing.parse ("\t.loc 1 1\n\n\n\t.data\nx:\n\t.long 1\ny:\n\t.long 2\n\n" ++
      "# -- Begin f\nf:\n\tpushq %rbp\n\t.loc 1 2\n\tcall malloc\n\tleave\n\tret\n") =
        .ok listing ∧
    after.render = "\n/****/\n\n\t.data\ny:\n\t.long 2\nx:\n\t.long 1\n/****/\n\n/****/\n\n" ++
      "# -- Begin f\nf:\n\tpushq %rbp\n\tsubq $0, %rsp\n\taddq $4, %rdi\n\tcall malloc\n" ++
      "\tmovq %rbp, %rsp\n\taddq $0, %rsp\n\tpopq %rbp\n\tret\n" ∧
    ∃ again, Listing.parse after.render = .ok again ∧ again.dialect = .libfirm ∧
      again.sections.length = after.sections.length ∧
      ∀ place sec, after.sections[place]? = some sec →
        ∃ sec', again.sections[place]? = some sec' ∧ sec'.kind = sec.kind ∧
          sec'.contents = (if sec.writtenLines.isEmpty then [""] else sec.writtenLines) ++
            if place + 1 < after.sections.length then [Listing.separator] else [] := by
  intro listing config g
  have parsed : Listing.parse ("\t.loc 1 1\n\n\n\t.data\nx:\n\t.long 1\ny:\n\t.long 2\n\n" ++
      "# -- Begin f\nf:\n\tpushq %rbp\n\t.loc 1 2\n\tcall malloc\n\tleave\n\tret\n") =
        .ok listing := by decide +kernel
  have reparsed := parse_render_runAll parsed config .smallChanges .bits64 g
  -- Without the names the two sides are the same text, and nothing has to be run to compare them.
  dsimp only at reparsed ⊢
  exact ⟨parsed, by decide +kernel, reparsed⟩

end Config

end AsmLayout
