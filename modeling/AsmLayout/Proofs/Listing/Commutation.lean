import AsmLayout.Proofs.Listing.Arrangement
import AsmLayout.Proofs.Listing.Edits
import AsmLayout.Proofs.Listing.Numbering
import AsmLayout.Proofs.Section.FrameInsertion
import AsmLayout.Random.Keystream

/-! # Paddings commute with reorderings

Paddings by fixed amounts edit every section on its own, by its text alone, and no order is drawn by
what they put in. So it does not matter whether sections or objects change places before or after, nor
which of the two paddings comes first: all lines are the same, and with them their numbers.
-/

namespace AsmLayout

/-! ## Frames by a fixed amount -/

namespace Section

/-- A section whose functions, if it has any, are padded by an amount. -/
def framed (amount : Nat) (sec : Section) : Section × List FrameOutcome :=
  if sec.isFunction then sec.padFrames amount else (sec, [])

def paddedFunctions (amount : Nat) (sec : Section) : List String :=
  paddedNames (sec.framed amount).2

variable {sec filled : Section}

theorem framed_filled {ins : Insertion} (amount : Nat) (fills : Filled ins sec filled) :
    Filled ins (sec.framed amount).1 (filled.framed amount).1 ∧
      filled.paddedFunctions amount = sec.paddedFunctions amount := by
  have kind : filled.isFunction = sec.isFunction := congrArg (· == .function) fills.kind
  rw [paddedFunctions, paddedFunctions, framed, framed, kind]
  split
  · exact padFrames_filled amount fills
  · exact ⟨fills, rfl⟩

theorem SameText.framed (same : filled.SameText sec) (amount : Nat) :
    (filled.framed amount).1.SameText (sec.framed amount).1 ∧
      filled.paddedFunctions amount = sec.paddedFunctions amount := by
  obtain ⟨fills, functions⟩ := framed_filled amount (Filled.nothing_iff.mpr same)
  exact ⟨Filled.nothing_iff.mp fills, functions⟩

theorem framed_reshaped (amount : Nat) (sec : Section) : Reshaped sec (sec.framed amount).1 := by
  rw [Section.framed]
  split
  · exact sec.padFrames_reshaped amount
  · exact .refl sec

end Section

namespace Listing

/-- An edit of sections, as a relation: what comes of a section is told by its text, and call-frame
    directives stay. -/
structure EditsText (R : Section → Section → Prop) : Prop where
  congr : ∀ {sec sec' edited edited' : Section}, R sec edited → sec'.SameText sec →
    edited'.SameText edited → R sec' edited'
  sameText : ∀ {sec edited edited' : Section}, R sec edited → R sec edited' →
    edited.SameText edited'
  frames : ∀ {sec edited : Section}, R sec edited →
    edited.lines.any Dialect.isCallFrame = sec.lines.any Dialect.isCallFrame

theorem editsText_filled (ins : Insertion) : EditsText (Section.Filled ins) where
  congr fills := fills.congr
  sameText first := first.sameText
  frames fills := fills.lines.any_eq (.of_tellsLandmark .isCallFrame)

theorem editsText_framed (amount : Nat) :
    EditsText fun sec edited => edited.SameText (sec.framed amount).1 where
  congr edited before after := after.trans (edited.trans (before.symm.framed amount).1)
  sameText first second := first.trans second.symm
  frames {sec edited} same := by
    rw [TellsLandmark.isCallFrame.any_eq_of_contents same.contents]
    exact (sec.framed_reshaped amount).lines.any_eq .isCallFrame

variable {R : Section → Section → Prop} {listing other : Listing}

theorem renumberFrom_congr (edit : EditsText R) {sections edited : List Section}
    (each : List.Forall₂ R sections edited) (start start' : Nat) :
    List.Forall₂ R (renumberFrom start sections) (renumberFrom start' edited) := by
  induction each generalizing start start' with
  | nil => exact .nil
  | cons first _ ih =>
      exact .cons (edit.congr first (Section.renumber_sameText ..) (Section.renumber_sameText ..))
        (ih _ _)

theorem Partitioned.eq_of_edits (partitioned : listing.Partitioned)
    (partitioned' : other.Partitioned) (dialect : listing.dialect = other.dialect)
    (edit : EditsText R) {sections : List Section}
    (first : List.Forall₂ R sections listing.sections)
    (second : List.Forall₂ R sections other.sections) : listing = other := by
  refine partitioned.eq_of_sameText partitioned' dialect ?_
  generalize listing.sections = edited at first ⊢
  generalize other.sections = edited' at second ⊢
  induction first generalizing edited' with
  | nil =>
      cases second
      exact .nil
  | cons related _ ih =>
      cases second with
      | cons related' later => exact .cons (edit.sameText related related') (ih _ later)

/-! ## Reordering edited sections -/

theorem map_eq_of_related {β : Type} {f : Section → β} {sections edited : List Section}
    (each : List.Forall₂ R sections edited)
    (told : ∀ {sec sec' : Section}, R sec sec' → f sec' = f sec) : edited.map f = sections.map f := by
  have same : List.Forall₂ (· = ·) (sections.map f) (edited.map f) := by
    rw [List.forall₂_map_left_iff, List.forall₂_map_right_iff]
    exact each.imp fun _ _ related => (told related).symm
  rw [List.forall₂_eq_eq_eq] at same
  exact same.symm

theorem movable_eq (edit : EditsText R) (dialect : other.dialect = listing.dialect)
    (each : List.Forall₂ R listing.sections other.sections) : other.movable = listing.movable := by
  have told : other.sections.map (fun sec => sec.lines.any Dialect.isCallFrame) =
      listing.sections.map fun sec => sec.lines.any Dialect.isCallFrame :=
    map_eq_of_related each edit.frames
  have found := congrArg (List.findIdx? id) told
  rw [List.findIdx?_map, List.findIdx?_map] at found
  have pinned : other.pinned? = listing.pinned? := by
    rw [pinned?, pinned?, dialect]
    split
    · exact found
    · rfl
  rw [movable, movable, pinned, each.length_eq]

theorem arrange_related {sections edited : List Section} (each : List.Forall₂ R sections edited)
    (positions sources : List Nat) :
    List.Forall₂ R (arrange sections positions sources) (arrange edited positions sources) := by
  have taken (place : Nat) : Option.Rel R sections[place]? edited[place]? := by
    induction each generalizing place with
    | nil => exact .none
    | cons first _ ih =>
        cases place with
        | zero => exact .some first
        | succ place => exact ih place
  rw [arrange, arrange, each.length_eq]
  refine List.rel_filterMap (R := Eq) ?_ (List.forall₂_refl _)
  rintro place _ rfl
  exact taken _

variable {G : Type} [Random.Generator G]

theorem reorder_related (edit : EditsText R) (dialect : other.dialect = listing.dialect)
    (each : List.Forall₂ R listing.sections other.sections) (mode : StructureMode) (g : G) :
    List.Forall₂ R (listing.reorder mode g).1.1.sections (other.reorder mode g).1.1.sections := by
  have arranged := arrange_related each listing.movable (drawOrder mode listing.movable g).1
  rw [reorder, reorder, movable_eq edit dialect each]
  dsimp only
  split
  · exact each
  · split
    · exact each
    · exact renumberFrom_congr edit arranged 0 0

/-! ## Paddings by fixed amounts -/

theorem padAllocations_filled (amount : Nat) (width : PointerWidth) (listing : Listing) (g : G) :
    List.Forall₂ (Section.Filled (.ofAmount width amount)) listing.sections
      (listing.padAllocations ⟨amount, amount + 1⟩ width g).1.1.sections := by
  have each : List.Forall₂
      (fun sec edit => Section.Filled (.ofAmount width amount) sec edit.1) listing.sections
      (Random.traverse (Section.padAllocations ⟨amount, amount + 1⟩ width) listing.sections g).1 :=
    Random.traverse_forall₂ (fun sec g => sec.padAllocations_filled amount width g) _ g
  exact renumberFrom_related each (fun fills same => fills.congr (.refl _) same) 0

theorem padFrames_single (amount : Nat) (listing : Listing) (g : G) :
    (listing.padFrames ⟨amount, amount + 1⟩ g).1 =
      (listing.withEdits (listing.sections.map (·.framed amount)),
        (listing.sections.map (·.framed amount)).flatMap (·.2)) := by
  have filled : ¬(⟨amount, amount + 1⟩ : Random.Interval).isEmpty = true := by
    simp [Random.Interval.isEmpty]
  have fixed (sec : Section) (g : G) :
      (padFramesOf ⟨amount, amount + 1⟩ sec g).1 = sec.framed amount := by
    rw [padFramesOf, Section.framed]
    split
    · dsimp only
      rw [Random.inInterval_single]
    · rfl
  rw [padFrames, if_neg filled]
  dsimp only
  rw [Random.traverse_eq_map fixed]

theorem padFrames_framed (amount : Nat) (listing : Listing) (g : G) :
    List.Forall₂ (fun sec edited => edited.SameText (sec.framed amount).1) listing.sections
      (listing.padFrames ⟨amount, amount + 1⟩ g).1.1.sections := by
  have each : List.Forall₂ (fun sec edit => edit = Section.framed amount sec) listing.sections
      (listing.sections.map (·.framed amount)) := by
    rw [List.forall₂_map_right_iff, List.forall₂_same]
    exact fun _ _ => rfl
  rw [padFrames_single]
  refine renumberFrom_related each ?_ 0
  rintro sec edit sec' rfl same
  exact same

theorem paddedNames_padFrames (amount : Nat) (listing : Listing) (g : G) :
    paddedNames (listing.padFrames ⟨amount, amount + 1⟩ g).1.2 =
      (listing.sections.map (·.paddedFunctions amount)).flatten := by
  rw [padFrames_single]
  dsimp only
  rw [paddedNames_flatMap, List.flatMap_map, List.flatMap_def]
  rfl

/-! ## Commutation -/

theorem shuffleSegment_filled {ins : Insertion} (partitioned : listing.Partitioned)
    (partitioned' : other.Partitioned)
    (each : List.Forall₂ (Section.Filled ins) listing.sections other.sections)
    (segment : DataSegment) (g : G) :
    List.Forall₂ (Section.Filled ins) (listing.shuffleSegment segment g).1.1.sections
      (other.shuffleSegment segment g).1.1.sections := by
  have behind : ∀ sec ∈ listing.sections, sec.PositiveBehind :=
    fun sec member line => partitioned.number_ne_zero member
  have behind' : ∀ sec ∈ other.sections, sec.PositiveBehind :=
    fun sec member line => partitioned'.number_ne_zero member
  have numbered : List.Forall₂ (fun sec filled => Section.PositiveBehind filled ∧
      Section.PositiveBehind sec ∧ Section.Filled ins sec filled)
      listing.sections other.sections := by
    have left := (List.forall₂_and_left _ _).mpr ⟨behind, each⟩
    exact ((List.forall₂_and_left _ _).mpr ⟨behind', left.flip⟩).flip
  have shuffled : List.Forall₂
      (fun (edit edit' : Section × List ShuffledExtent) => Section.Filled ins edit.1 edit'.1)
      (Random.traverse (Section.shuffleSegment segment) listing.sections g).1
      (Random.traverse (Section.shuffleSegment segment) other.sections g).1 := by
    refine (Random.traverse_related ?_ numbered g).1
    rintro sec filled g ⟨behind', behind, fills⟩
    exact Section.shuffleSegment_filled segment fills behind behind' g
  refine renumberFrom_congr (editsText_filled ins) ?_ 0 0
  rwa [List.forall₂_map_left_iff, List.forall₂_map_right_iff]

theorem padFrames_filled {ins : Insertion} (amount : Nat)
    (each : List.Forall₂ (Section.Filled ins) listing.sections other.sections) (g g' : G) :
    List.Forall₂ (Section.Filled ins) (listing.padFrames ⟨amount, amount + 1⟩ g).1.1.sections
        (other.padFrames ⟨amount, amount + 1⟩ g').1.1.sections ∧
      paddedNames (other.padFrames ⟨amount, amount + 1⟩ g').1.2 =
        paddedNames (listing.padFrames ⟨amount, amount + 1⟩ g).1.2 := by
  constructor
  · rw [padFrames_single, padFrames_single]
    refine renumberFrom_congr (editsText_filled ins) ?_ 0 0
    rw [List.forall₂_map_left_iff, List.forall₂_map_right_iff, List.forall₂_map_left_iff,
      List.forall₂_map_right_iff]
    exact each.imp fun _ _ fills => (Section.framed_filled amount fills).1
  · rw [paddedNames_padFrames, paddedNames_padFrames,
      map_eq_of_related each fun fills => (Section.framed_filled amount fills).2]

/-- Paddings by fixed amounts commute with the reordering of sections and with the shuffles of their
    objects, and with one another. -/
theorem paddings_commute {start : Listing} (built : start.Built) (edits : List (Edit × G))
    (a b : Nat) (width : PointerWidth) (mode : StructureMode) (segment : DataSegment)
    (g g' h h' : G) :
    let listing := start.edited edits
    let heap (listing : Listing) (g : G) := (listing.padAllocations ⟨a, a + 1⟩ width g).1.1
    let stack (listing : Listing) (g : G) := (listing.padFrames ⟨b, b + 1⟩ g).1
    let reordered (listing : Listing) := (listing.reorder mode g).1.1
    let shuffled (listing : Listing) := (listing.shuffleSegment segment g).1.1
    let functions (listing : Listing) := listing.sections.map (·.paddedFunctions b)
    heap (reordered listing) h = reordered (heap listing h') ∧
    heap (shuffled listing) h = shuffled (heap listing h') ∧
    (heap (stack listing g).1 h = (stack (heap listing h') g').1 ∧
      paddedNames (stack (heap listing h') g').2 = paddedNames (stack listing g).2) ∧
    (stack (reordered listing) h).1 = reordered (stack listing h').1 ∧
    paddedNames (stack listing h').2 = (functions listing).flatten ∧
    paddedNames (stack (reordered listing) h).2 = (functions (reordered listing)).flatten ∧
    (functions (reordered listing)).Perm (functions listing) := by
  intro listing heap stack reordered shuffled functions
  have partitioned : listing.Partitioned := built.partitioned.edited edits
  have adjusts := editsText_filled (.ofAmount width a)
  have grows := editsText_framed b
  have heaped (listing : Listing) (g : G) :
      List.Forall₂ (Section.Filled (.ofAmount width a)) listing.sections (heap listing g).sections :=
    padAllocations_filled a width listing g
  have stays (listing : Listing) (g : G) : (heap listing g).dialect = listing.dialect := rfl
  have moves (listing : Listing) : (reordered listing).dialect = listing.dialect :=
    (Edit.reorder mode).dialect_apply listing g
  have frames (listing : Listing) (g : G) : (stack listing g).1.dialect = listing.dialect :=
    (Edit.padFrames ⟨b, b + 1⟩).dialect_apply listing g
  refine ⟨?_, ?_, ⟨?_, ?_⟩, ?_, ?_, ?_, ?_⟩
  · refine ((partitioned.reorder mode g).padAllocations _ width h).eq_of_edits
      ((partitioned.padAllocations _ width h').reorder mode g) ?_ adjusts (heaped _ h)
      (reorder_related adjusts (stays listing h') (heaped listing h') mode g)
    exact (moves listing).trans (moves (heap listing h')).symm
  · exact ((partitioned.shuffleSegment segment g).padAllocations _ width h).eq_of_edits
      ((partitioned.padAllocations _ width h').shuffleSegment segment g) rfl adjusts (heaped _ h)
      (shuffleSegment_filled partitioned (partitioned.padAllocations _ width h') (heaped listing h')
        segment g)
  · refine ((partitioned.padFrames _ g).padAllocations _ width h).eq_of_edits
      ((partitioned.padAllocations _ width h').padFrames _ g') ?_ adjusts (heaped _ h)
      (padFrames_filled b (heaped listing h') g g').1
    exact (frames listing g).trans (frames (heap listing h') g').symm
  · exact (padFrames_filled b (heaped listing h') g g').2
  · refine ((partitioned.reorder mode g).padFrames _ h).eq_of_edits
      ((partitioned.padFrames _ h').reorder mode g) ?_ grows (padFrames_framed b _ h)
      (reorder_related grows (frames listing h') (padFrames_framed b listing h') mode g)
    calc
      (stack (reordered listing) h).1.dialect = (reordered listing).dialect := frames _ h
      _ = listing.dialect := moves listing
      _ = (stack listing h').1.dialect := (frames listing h').symm
      _ = (reordered (stack listing h').1).dialect := (moves _).symm
  · exact paddedNames_padFrames b listing h'
  · exact paddedNames_padFrames b (reordered listing) h
  · exact (listing.rearranged_reorder mode g).map_perm fun same => (same.framed b).2

/-- A call inside an object that moves, and one in a function that is padded and moves. -/
theorem paddings_commute_around_calls :
    let start : Listing := ⟨.gcc, partition .gcc (Line.numbered 0 ["\t.cfi_sections .eh", "\t.data",
      "x:", "\tcall malloc", "y:", "\t.long 2", "\t.text", "f:", "\tpushq %rbp", "\tcall malloc",
      "\tleave", "\tret", "\t.cfi_endproc", "\t.bss", "z:"])⟩
    let g : Random.Keystream := ⟨Vector.replicate 8 0, 0, [0, 0, 0, 0]⟩
    let listing := start.edited [(.renumber, g)]
    let heap (listing : Listing) := (listing.padAllocations ⟨9, 10⟩ .bits64 g).1.1
    let stack (listing : Listing) := (listing.padFrames ⟨40, 41⟩ g).1
    let reordered (listing : Listing) := (listing.reorder .smallChanges g).1.1
    let shuffled (listing : Listing) := (listing.shuffleSegment .data g).1.1
    parse ("\t.cfi_sections .eh\n\t.data\nx:\n\tcall malloc\ny:\n\t.long 2\n\t.text\nf:\n" ++
      "\tpushq %rbp\n\tcall malloc\n\tleave\n\tret\n\t.cfi_endproc\n\t.bss\nz:\n") = .ok start ∧
    (shuffled (stack (heap (reordered listing))).1).sections.map (·.contents) =
      [["\t.cfi_sections .eh"],
        ["\t.text", "f:", "\tpushq %rbp", "\tsubq $32, %rsp", "\taddq $9, %rdi", "\tcall malloc",
          "\tmovq %rbp, %rsp", "\taddq $32, %rsp", "\tpopq %rbp", "\tret", "\t.cfi_endproc"],
        ["\t.data", "y:", "\t.long 2", "x:", "\taddq $9, %rdi", "\tcall malloc"],
        ["\t.bss", "z:"]] ∧
    heap (reordered listing) = reordered (heap listing) ∧
    heap (shuffled listing) = shuffled (heap listing) ∧
    heap (stack listing).1 = (stack (heap listing)).1 ∧
    (stack (reordered listing)).1 = reordered (stack listing).1 := by
  intro start g
  have parsed : parse ("\t.cfi_sections .eh\n\t.data\nx:\n\tcall malloc\ny:\n\t.long 2\n" ++
      "\t.text\nf:\n\tpushq %rbp\n\tcall malloc\n\tleave\n\tret\n\t.cfi_endproc\n\t.bss\nz:\n") =
        .ok start := by decide +kernel
  have commute := paddings_commute (.of_text parsed) [(.renumber, g)] 9 40 .bits64 .smallChanges .data
    g g g g
  -- Without the names the two sides are the same text, and nothing has to be run to compare them.
  dsimp only at commute ⊢
  obtain ⟨heapReordered, heapShuffled, ⟨heapStack, -⟩, stackReordered, -⟩ := commute
  exact ⟨parsed, by decide +kernel, heapReordered, heapShuffled, heapStack, stackReordered⟩

end Listing

end AsmLayout
