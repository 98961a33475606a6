import AsmLayout.Proofs.Listing.Arrangement
import AsmLayout.Proofs.Listing.Numbering
import AsmLayout.Proofs.Section.Conservation
import AsmLayout.Random.Keystream
import AsmLayout.Randomization

/-! # What a run of transforms conserves

Transforms run one after the other, each on what the others leave, and the edit of one that changed
nothing is discarded. However they are combined, every section keeps its lines: reordering moves it
as a whole, shuffling keeps its bag of texts, and the paddings add to the bag what they say.
-/

namespace AsmLayout

namespace Listing

variable {G : Type} [Random.Generator G]

theorem callCount_padAllocations {bound : Nat} (positive : 0 < bound) (width : PointerWidth)
    (listing : Listing) (g : G) :
    Effect.callCount (listing.padAllocations ⟨0, bound⟩ width g).1.2 =
      listing.lines.countP (·.isAllocationCall) := by
  have each : List.Forall₂
      (fun sec edit => edit.2.length = sec.lines.countP (·.isAllocationCall)) listing.sections
      (Random.traverse (Section.padAllocations ⟨0, bound⟩ width) listing.sections g).1 := by
    apply Random.traverse_forall₂
    intro sec g
    have calls := (sec.padAllocations_adjusted bound width g).calls
    rw [if_neg (Nat.ne_of_gt positive), Multiset.coe_card, List.length_map] at calls
    exact calls
  rw [lines, Effect.callCount, padAllocations]
  dsimp only
  generalize (Random.traverse _ _ _).1 = edits at each ⊢
  generalize listing.sections = sections at each ⊢
  induction each with
  | nil => rfl
  | cons first _ ih =>
      rw [List.map_cons, List.flatten_cons, List.length_append, ih, first, List.flatMap_cons,
        List.countP_append]

end Listing

namespace Transform

variable {G : Type} [Random.Generator G]

/-- What a transform leaves of a listing in a sequence. -/
def kept (transform : Transform) (listing : Listing) (g : G) : Listing :=
  if (transform.apply listing g).1.2.isChange then (transform.apply listing g).1.1 else listing

theorem runAll_cons (transform : Transform) (rest : List Transform) (listing : Listing) (g : G) :
    (runAll (transform :: rest) listing g).1.1 =
      (runAll rest (transform.kept listing g) (transform.apply listing g).2).1.1 := rfl

theorem runAll_append (first second : List Transform) (listing : Listing) (g : G) :
    (runAll (first ++ second) listing g).1.1 =
      (runAll second (runAll first listing g).1.1 (runAll first listing g).2).1.1 := by
  induction first generalizing listing g with
  | nil => rfl
  | cons transform rest ih =>
      rw [List.cons_append, runAll_cons, ih]
      rfl

theorem runAll_stage {R : Listing → Listing → Prop} {wanted : Prop} [Decidable wanted]
    {transform : Transform} (on : wanted → ∀ (listing : Listing) (g : G),
      R listing (transform.kept listing g))
    (off : ¬wanted → ∀ listing, R listing listing) (before : List Transform) (listing : Listing)
    (g : G) :
    R (runAll before listing g).1.1
      (runAll (before ++ if wanted then [transform] else []) listing g).1.1 := by
  rw [runAll_append]
  split
  · rename_i holds
    exact on holds _ _
  · rename_i fails
    exact off fails _

theorem rearranged_kept (mode : StructureMode) (listing : Listing) (g : G) :
    ∃ origin, Rearranged origin listing.sections ((reorder mode).kept listing g).sections := by
  unfold kept
  split
  · exact ⟨_, listing.rearranged_reorder mode g⟩
  · exact ⟨id, .refl _⟩

theorem adjusted_kept {bound : Nat} (positive : 0 < bound) (width : PointerWidth)
    (listing : Listing) (g : G) :
    List.Forall₂ (fun sec sec' => ∃ amounts, Adjusted bound width amounts sec.lines sec'.lines)
      listing.sections ((padAllocations bound width).kept listing g).sections := by
  unfold kept
  split
  · have each : List.Forall₂
        (fun sec edit => ∃ amounts, Adjusted bound width amounts sec.lines edit.1.lines)
        listing.sections
        (Random.traverse (Section.padAllocations ⟨0, bound⟩ width) listing.sections g).1 :=
      Random.traverse_forall₂ (fun sec g => ⟨_, sec.padAllocations_adjusted bound width g⟩) _ g
    refine Listing.renumberFrom_related each ?_ 0
    rintro sec edit sec' ⟨amounts, calls, below, texts⟩ same
    exact ⟨amounts, calls, below, same.bag.trans texts⟩
  -- An edit is only discarded where the whole listing has no call, and then none was due.
  · rename_i unchanged
    have none : listing.lines.countP (·.isAllocationCall) = 0 := by
      rw [← Listing.callCount_padAllocations positive width listing g]
      simpa [apply, Effect.isChange] using unchanged
    rw [List.forall₂_same]
    intro sec member
    refine ⟨0, .refl (.inr ?_)⟩
    rw [List.countP_eq_zero] at none ⊢
    intro line inside
    exact none line (List.mem_flatMap.mpr ⟨sec, member, inside⟩)

theorem framed_padFramesOf {bound : Nat} (positive : 0 < bound) (sec : Section) (g : G) :
    ∃ frame exchange, Framed bound frame exchange sec (Listing.padFramesOf ⟨0, bound⟩ sec g).1.1 := by
  unfold Listing.padFramesOf
  split
  · have drawn := Random.inInterval_zero_lt positive g
    have frame := alignDown_le (Random.inInterval ⟨0, bound⟩ g).1
    refine ⟨_, _, dvd_alignDown _, ?_, ?_, sec.padFrames_balances _⟩
    · exact Nat.lt_of_le_of_lt frame (drawn.trans_le (Nat.le_max_right ..))
    · exact fun off => absurd off (Nat.ne_of_gt positive)
  · exact ⟨0, 0, .refl sec⟩

theorem framed_kept {bound : Nat} (positive : 0 < bound) (listing : Listing) (g : G) :
    List.Forall₂ (fun sec sec' => ∃ frame exchange, Framed bound frame exchange sec sec')
      listing.sections ((padFrames bound).kept listing g).sections := by
  unfold kept
  split
  · dsimp only [apply, Listing.padFrames]
    split
    · exact List.forall₂_same.mpr fun sec _ => ⟨0, 0, .refl sec⟩
    · have each : List.Forall₂ (fun sec (edit : Section × List FrameOutcome) =>
            ∃ frame exchange, Framed bound frame exchange sec edit.1) listing.sections
          (Random.traverse (Listing.padFramesOf ⟨0, bound⟩) listing.sections g).1 := by
        apply Random.traverse_forall₂
        exact framed_padFramesOf positive
      refine Listing.renumberFrom_related each ?_ 0
      rintro sec edit sec' ⟨frame, exchange, framed⟩ same
      exact ⟨frame, exchange, framed.of_sameText same⟩
  · exact List.forall₂_same.mpr fun sec _ => ⟨0, 0, .refl sec⟩

theorem bags_kept_shuffle (segment : DataSegment) (listing : Listing) (g : G) :
    ((shuffleSegment segment).kept listing g).sections.map (bag ·.lines) =
      listing.sections.map (bag ·.lines) := by
  unfold kept
  split
  · have each : List.Forall₂ (fun sec edit => bag edit.1.lines = bag sec.lines) listing.sections
        (Random.traverse (Section.shuffleSegment segment) listing.sections g).1 :=
      Random.traverse_forall₂ (fun sec g => sec.bag_shuffleSegment segment g) _ g
    have same : List.Forall₂ (fun sec sec' => bag sec.lines = bag sec'.lines) listing.sections
        ((shuffleSegment segment).apply listing g).1.1.sections := by
      refine Listing.renumberFrom_related each ?_ 0
      intro sec edit sec' shuffled same
      exact (same.bag.trans shuffled).symm
    rw [← List.forall₂_map_right_iff, ← List.forall₂_map_left_iff, List.forall₂_eq_eq_eq] at same
    exact same.symm
  · rfl

theorem bags_runAll_shuffles (segments : List DataSegment) (listing : Listing) (g : G) :
    (runAll (segments.map .shuffleSegment) listing g).1.1.sections.map (bag ·.lines) =
      listing.sections.map (bag ·.lines) := by
  induction segments generalizing listing g with
  | nil => rfl
  | cons segment rest ih => rw [List.map_cons, runAll_cons, ih, bags_kept_shuffle]

end Transform

/-- What the transforms of a configuration do to the lines of a section: leaves go, and in come
    adjustments, what leaves are written out to, and growths and releases by one amount. -/
structure Config.Conserves (config : Config) (width : PointerWidth) (amounts : Multiset Nat)
    (frame : Nat) (exchange : Exchange) (before after : Section) : Prop where
  texts : bag after.lines = bag before.lines - exchange.leaves + exchange.gains frame +
    amounts.map width.sizeAdjustment
  present : exchange.leaves ≤ bag before.lines
  leaves : ∀ content ∈ exchange.leaves, isLeaveText content = true
  /-- One adjustment for each allocation call. -/
  calls : amounts.card =
    if config.heap = 0 then 0 else before.lines.countP (·.isAllocationCall)
  amounts_below : ∀ amount ∈ amounts, amount < config.heap
  aligned : 16 ∣ frame
  frame_below : 0 < config.stack → frame < config.stack
  /-- Without a bound on frames no leave goes, and no frame grows or is released. -/
  unframed : config.stack = 0 → exchange = 0
  immediates : frame < 2 ^ 31 ∧ ∀ amount ∈ amounts, amount < 2 ^ 31

namespace Config

variable {G : Type} [Random.Generator G]

theorem bounds_of_validate {config : Config} (valid : config.validate = .ok ()) :
    config.heap ≤ 2 ^ 31 ∧ config.stack ≤ 2 ^ 31 := by
  unfold validate at valid
  split at valid
  · contradiction
  · split at valid
    · contradiction
    · rename_i heap stack
      exact ⟨Nat.le_of_not_lt heap, Nat.le_of_not_lt stack⟩

theorem reordering_stage (config : Config) (mode : StructureMode) (listing : Listing) (g : G) :
    ∃ origin, Rearranged origin listing.sections
        (Transform.runAll (if config.fileStructure then [.reorder mode] else []) listing
          g).1.1.sections ∧
      (config.fileStructure = false → origin = id) := by
  refine Transform.runAll_stage (R := fun before after => ∃ origin,
    Rearranged origin before.sections after.sections ∧ (config.fileStructure = false → origin = id))
    ?_ ?_ [] listing g
  · intro wanted listing g
    obtain ⟨origin, rearranged⟩ := Transform.rearranged_kept mode listing g
    exact ⟨origin, rearranged, fun off => absurd wanted (by simp [off])⟩
  · intro _ listing
    exact ⟨id, .refl _, fun _ => rfl⟩

theorem heap_stage (config : Config) (width : PointerWidth) (before : List Transform)
    (listing : Listing) (g : G) :
    List.Forall₂
      (fun sec sec' => ∃ amounts, Adjusted config.heap width amounts sec.lines sec'.lines)
      (Transform.runAll before listing g).1.1.sections
      (Transform.runAll (before ++
        if config.heap > 0 then [.padAllocations config.heap width] else []) listing
        g).1.1.sections := by
  refine Transform.runAll_stage (R := fun before after => List.Forall₂ _ before.sections
    after.sections) ?_ ?_ before listing g
  · intro wanted listing g
    exact Transform.adjusted_kept wanted width listing g
  · intro off listing
    exact List.forall₂_same.mpr fun sec _ => ⟨0, .refl (.inl (Nat.eq_zero_of_not_pos off))⟩

theorem stack_stage (config : Config) (before : List Transform) (listing : Listing) (g : G) :
    List.Forall₂ (fun sec sec' => ∃ frame exchange, Framed config.stack frame exchange sec sec')
      (Transform.runAll before listing g).1.1.sections
      (Transform.runAll (before ++ if config.stack > 0 then [.padFrames config.stack] else [])
        listing g).1.1.sections := by
  refine Transform.runAll_stage (R := fun before after => List.Forall₂ _ before.sections
    after.sections) ?_ ?_ before listing g
  · intro wanted listing g
    exact Transform.framed_kept wanted listing g
  · intro _ listing
    exact List.forall₂_same.mpr fun sec _ => ⟨0, 0, .refl sec⟩

theorem stages (config : Config) (mode : StructureMode) (width : PointerWidth)
    (listing : Listing) (g : G) :
    ∃ reordered adjusted framed : Listing,
      (∃ origin, Rearranged origin listing.sections reordered.sections ∧
        (config.fileStructure = false → origin = id)) ∧
      List.Forall₂
        (fun sec sec' => ∃ amounts, Adjusted config.heap width amounts sec.lines sec'.lines)
        reordered.sections adjusted.sections ∧
      List.Forall₂ (fun sec sec' => ∃ frame exchange, Framed config.stack frame exchange sec sec')
        adjusted.sections framed.sections ∧
      (Transform.runAll (config.transforms mode width) listing g).1.1.sections.map (bag ·.lines) =
        framed.sections.map (bag ·.lines) := by
  refine ⟨_, _, _, config.reordering_stage mode listing g, config.heap_stage width _ listing g,
    config.stack_stage _ listing g, ?_⟩
  rw [transforms, Transform.runAll_append, Transform.bags_runAll_shuffles]

theorem Conserves.of_stages {config : Config} (valid : config.validate = .ok ())
    {width : PointerWidth} {amounts : Multiset Nat} {frame : Nat} {exchange : Exchange}
    {former reordered adjusted framed sec : Section} (moved : reordered.SameText former)
    (calls : Adjusted config.heap width amounts reordered.lines adjusted.lines)
    (frames : Framed config.stack frame exchange adjusted framed)
    (shuffled : bag sec.lines = bag framed.lines) :
    config.Conserves width amounts frame exchange former sec := by
  obtain ⟨heap, stack⟩ := bounds_of_validate valid
  obtain ⟨present, texts⟩ := frames.balances.after_adjusted calls
  rw [moved.bag] at present texts
  exact {
    texts := shuffled.trans texts
    present
    leaves := frames.balances.leaves
    calls := by rw [calls.calls, moved.countP_isAllocationCall]
    amounts_below := calls.below
    aligned := frames.aligned
    frame_below := fun on => frames.below.trans_le (Nat.max_le.mpr ⟨on, Nat.le_refl _⟩)
    unframed := frames.off
    immediates := by
      refine ⟨frames.below.trans_le (by omega), fun amount member => ?_⟩
      exact (calls.below amount member).trans_le heap }

/-- The transforms of a configuration, one after the other: sections change places as a whole, and
    then only gain and lose what the paddings say. -/
theorem conserves_runAll {config : Config} (valid : config.validate = .ok ())
    (mode : StructureMode) (width : PointerWidth) (listing : Listing) (g : G) :
    let after := (Transform.runAll (config.transforms mode width) listing g).1.1
    let places := Set.Iio listing.sections.length
    after.sections.length = listing.sections.length ∧
    ∃ origin : Nat → Nat, Set.BijOn origin places places ∧
      (config.fileStructure = false → origin = id) ∧
      ∀ place sec, after.sections[place]? = some sec →
        ∃ former amounts frame exchange, listing.sections[origin place]? = some former ∧
          config.Conserves width amounts frame exchange former sec := by
  intro after places
  obtain ⟨reordered, adjusted, framed, ⟨origin, rearranged, identity⟩, calls, frames, shuffled⟩ :=
    config.stages mode width listing g
  refine ⟨?_, origin, rearranged.bijOn, identity, ?_⟩
  · calc
      after.sections.length = framed.sections.length := by simpa using congrArg List.length shuffled
      _ = adjusted.sections.length := frames.length_eq.symm
      _ = reordered.sections.length := calls.length_eq.symm
      _ = listing.sections.length := rearranged.length
  · intro place sec there
    -- Back through the stages, from the last to the first.
    have same := congrArg (fun bags => bags[place]?) shuffled
    simp only [List.getElem?_map] at same
    rw [there, Option.map_some, eq_comm, Option.map_eq_some_iff] at same
    obtain ⟨fourth, stood, unshuffled⟩ := same
    obtain ⟨third, stood, frame, exchange, framed⟩ := exists_of_getElem? frames stood
    obtain ⟨second, stood, amounts, adjusted⟩ := exists_of_getElem? calls stood
    obtain ⟨former, stood, moved⟩ := rearranged.text stood
    exact ⟨former, amounts, frame, exchange, stood,
      .of_stages valid moved adjusted framed unshuffled.symm⟩

/-- A function and a data block change places; then the function is padded in every way, and the
    objects of the data block are shuffled. -/
theorem conserves_runAll_with_all_on :
    let config : Config := { heap := 9, stack := 40, fileStructure := true, data := true }
    let listing : Listing := ⟨.gcc, Listing.partition .gcc (Line.numbered 0 ["\t.cfi_sections .eh",
      "\t.data", "x:", "\t.long 1", "y:", "\t.long 2", "\t.text", "f:", "\tpushq %rbp",
      "\tcall malloc", "\tleave", "\tret", "\t.cfi_endproc", "\t.bss", "z:"])⟩
    let g : Random.Keystream :=
      ⟨Vector.replicate 8 0, 0, [0, 0, 0, 0x80000000, 0, 0x80000000, 0, 0, 0, 0, 0]⟩
    let after := (Transform.runAll (config.transforms .smallChanges .bits64) listing g).1.1
    Listing.parse ("\t.cfi_sections .eh\n\t.data\nx:\n\t.long 1\ny:\n\t.long 2\n\t.text\nf:\n" ++
      "\tpushq %rbp\n\tcall malloc\n\tleave\n\tret\n\t.cfi_endproc\n\t.bss\nz:\n") = .ok listing ∧
    config.validate = .ok () ∧
    after.sections.map (·.contents) = [["\t.cfi_sections .eh"],
      ["\t.text", "f:", "\tpushq %rbp", "\tsubq $16, %rsp", "\taddq $4, %rdi", "\tcall malloc",
        "\tmovq %rbp, %rsp", "\taddq $16, %rsp", "\tpopq %rbp", "\tret", "\t.cfi_endproc"],
      ["\t.data", "y:", "\t.long 2", "x:", "\t.long 1"], ["\t.bss", "z:"]] ∧
    ∃ origin : Nat → Nat, Set.BijOn origin (Set.Iio 4) (Set.Iio 4) ∧
      ∀ place sec, after.sections[place]? = some sec →
        ∃ former amounts frame exchange, listing.sections[origin place]? = some former ∧
          config.Conserves .bits64 amounts frame exchange former sec := by
  intro config listing g after
  have valid : config.validate = .ok () := by decide
  have count : listing.sections.length = 4 := by decide +kernel
  obtain ⟨-, origin, bijective, -, each⟩ :=
    conserves_runAll valid .smallChanges .bits64 listing g
  rw [count] at bijective
  exact ⟨by decide +kernel, valid, by decide +kernel, origin, bijective, each⟩

end Config

end AsmLayout
