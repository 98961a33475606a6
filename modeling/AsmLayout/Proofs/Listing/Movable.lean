import AsmLayout.Proofs.Listing.Directive

/-! # Which sections a reordering moves

The first section, the last one and, in one dialect, the first with call-frame directives stand
still. The others change places among themselves, in any order or pair by pair, and a reordering
reports whether one of them did.
-/

namespace AsmLayout

namespace Section

def HasCallFrame (sec : Section) : Prop :=
  ∃ line ∈ sec.lines, line.startsWith ".cfi" = true

end Section

namespace Listing

/-- The place of the first section with a call-frame directive, where the dialect pins it. -/
structure PinnedAt (listing : Listing) (place : Nat) : Prop where
  conventions : listing.dialect = .gcc
  here : ∃ sec, listing.sections[place]? = some sec ∧ sec.HasCallFrame
  first : ∀ sec ∈ listing.sections.take place, ¬sec.HasCallFrame

/-- The places that are neither the first nor the last nor pinned. -/
structure MayMove (listing : Listing) (place : Nat) : Prop where
  behind : 0 < place
  before : place + 1 < listing.sections.length
  free : ¬listing.PinnedAt place

theorem hasCallFrame_iff {sec : Section} :
    sec.HasCallFrame ↔ sec.lines.any Dialect.isCallFrame = true :=
  List.any_eq_true.symm

theorem pinned?_eq_some_iff {listing : Listing} {place : Nat} :
    listing.pinned? = some place ↔ listing.PinnedAt place := by
  cases conventions : listing.dialect with
  | libfirm =>
      rw [pinned?, conventions]
      refine iff_of_false (by simp [Dialect.pinsFirstCallFrame]) ?_
      intro pinned
      exact absurd (pinned.conventions.symm.trans conventions) (by decide)
  | gcc =>
      rw [pinned?, conventions, Dialect.pinsFirstCallFrame, if_pos rfl,
        List.findIdx?_eq_some_iff_getElem]
      constructor
      · rintro ⟨inside, here, first⟩
        refine ⟨conventions, ⟨_, List.getElem?_eq_getElem inside, hasCallFrame_iff.mpr here⟩, ?_⟩
        intro sec member
        obtain ⟨index, earlier, rfl⟩ := List.mem_take_iff_getElem.mp member
        rw [hasCallFrame_iff]
        simpa using first index (by omega)
      · rintro ⟨-, ⟨sec, there, here⟩, first⟩
        obtain ⟨inside, rfl⟩ := List.getElem?_eq_some_iff.mp there
        refine ⟨inside, hasCallFrame_iff.mp here, ?_⟩
        intro index earlier
        have listed : listing.sections[index] ∈ listing.sections.take place :=
          List.mem_take_iff_getElem.mpr ⟨index, by omega, rfl⟩
        simpa [hasCallFrame_iff] using first _ listed

theorem mem_movable_iff {listing : Listing} {place : Nat} :
    place ∈ listing.movable ↔ listing.MayMove place := by
  have free : some place ≠ listing.pinned? ↔ ¬listing.PinnedAt place := by
    rw [← pinned?_eq_some_iff, ne_comm]
  simp only [movable, List.mem_filter, List.mem_range, Bool.and_eq_true, decide_eq_true_eq, free]
  constructor
  · rintro ⟨inside, behind, free⟩
    exact ⟨by omega, by omega, free⟩
  · rintro ⟨behind, before, free⟩
    exact ⟨by omega, by omega, free⟩

theorem pairwise_movable (listing : Listing) : listing.movable.Pairwise (· < ·) :=
  List.pairwise_lt_range.filter _

variable {G : Type} [Random.Generator G]

/-! ## Origins of what is moved -/

section

variable (mode : StructureMode) (listing : Listing) (g : G)

theorem map_origin_movable :
    listing.movable.map (listing.reorder mode g).1.2.origin =
      (drawOrder mode listing.movable g).1 := by
  rcases reorder_cases mode listing g with ⟨same, -, kept⟩ | ⟨-, arranged⟩
  · rw [OrderOutcome.origin_of_isChange_eq_false kept, List.map_id, same]
  · have length := (drawOrder_perm mode listing.movable g).length_eq
    rw [arranged]
    exact OrderOutcome.map_origin_positions listing.nodup_movable length.symm

theorem origin_reorder_of_not_mayMove {place : Nat} (still : ¬listing.MayMove place) :
    (listing.reorder mode g).1.2.origin place = place := by
  rw [← mem_movable_iff] at still
  rcases reorder_cases mode listing g with ⟨-, -, kept⟩ | ⟨-, arranged⟩
  · rw [OrderOutcome.origin_of_isChange_eq_false kept, id]
  · rw [arranged]
    exact OrderOutcome.origin_of_not_mem still

theorem isChange_reorder_iff :
    (listing.reorder mode g).1.2.isChange = true ↔
      ∃ place < listing.sections.length, (listing.reorder mode g).1.2.origin place ≠ place := by
  have ordered := map_origin_movable mode listing g
  rcases reorder_cases mode listing g with ⟨-, -, kept⟩ | ⟨other, arranged⟩
  · simp [kept, OrderOutcome.origin_of_isChange_eq_false kept]
  · have reported : (listing.reorder mode g).1.2.isChange = true := by
      rw [arranged]
      rfl
    refine iff_of_true reported ?_
    -- If every place kept its section, the order drawn would be the one that was there.
    by_contra still
    push Not at still
    apply other
    rw [← ordered]
    calc
      listing.movable.map (listing.reorder mode g).1.2.origin
        = listing.movable.map id := by
          apply List.map_congr_left
          intro place member
          exact still place (lt_of_mem_movable member)
      _ = listing.movable := List.map_id _

end

/-- The movable places are those between the first and the last that are not pinned, so there is none
    among two. Any other place keeps its section, and the movable ones take theirs from one another,
    each from one place; small changes keep or swap each pair of them. A change is reported exactly when
    a section comes from another place, and without one the listing is as it was. -/
theorem reorder_moves_movable {start : Listing} (built : start.Built) (edits : List (Edit × G))
    (mode : StructureMode) (g : G) :
    let before := start.edited edits
    let count := before.sections.length
    let after := (before.reorder mode g).1.1
    let outcome := (before.reorder mode g).1.2
    before.movable.Pairwise (· < ·) ∧
    (∀ place, place ∈ before.movable ↔ before.MayMove place) ∧
    (count < 3 → before.movable = []) ∧
    Rearranged outcome.origin before.sections after.sections ∧
    (∀ place, ¬before.MayMove place → outcome.origin place = place) ∧
    Set.BijOn outcome.origin {place | before.MayMove place} {place | before.MayMove place} ∧
    (mode = .smallChanges → PairsSwapped before.movable (before.movable.map outcome.origin)) ∧
    (outcome.isChange = true ↔ ∃ place < count, outcome.origin place ≠ place) ∧
    (outcome.isChange = false → after = before) ∧
    after.lines.map (·.number) = List.range after.lineCount := by
  intro before count after outcome
  have ordered := map_origin_movable mode before g
  have partitioned : before.Partitioned := built.partitioned.edited edits
  refine ⟨before.pairwise_movable, fun place => mem_movable_iff, ?_, rearranged_reorder mode before g,
    fun place => origin_reorder_of_not_mayMove mode before g, ?_, ?_,
    isChange_reorder_iff mode before g, reorder_eq, (partitioned.reorder mode g).dense⟩
  · intro few
    rw [List.eq_nil_iff_forall_not_mem]
    intro place member
    have inner := mem_movable_iff.mp member
    have := inner.behind
    have := inner.before
    omega
  · have moved : {place | before.MayMove place} = {place | place ∈ before.movable} := by
      ext place
      exact mem_movable_iff.symm
    rw [moved]
    apply bijOn_of_map_perm before.nodup_movable
    rw [ordered]
    exact drawOrder_perm mode before.movable g
  · rintro rfl
    rw [ordered]
    exact pairsSwapped_swapPairs before.movable g

/-- A function stands still between the sections that change places, and the odd one behind stays. -/
theorem reorder_moves_movable_around_function :
    let contents := ["\t.file \"a.c\"", "\t.data", "a:", "\t.text", "f:", "\t.cfi_startproc",
      "\t.bss", "b:", "\t.data", "c:"]
    let start : Listing := ⟨.gcc, partition .gcc (Line.numbered 0 contents)⟩
    let before := start.edited [(.append ["\t.text"], swappingStream)]
    let after := (before.reorder .smallChanges swappingStream).1.1
    let outcome := (before.reorder .smallChanges swappingStream).1.2
    ofLines contents = .ok start ∧ (∀ place, place ∈ [1, 3, 4] ↔ before.MayMove place) ∧
    PairsSwapped [1, 3, 4] [3, 1, 4] ∧ [1, 3, 4].map outcome.origin = [3, 1, 4] ∧
    ¬before.MayMove 2 ∧ outcome.origin 2 = 2 ∧ outcome.isChange = true ∧
    Rearranged outcome.origin before.sections after.sections ∧
    after.lines.map (·.number) = List.range after.lineCount := by
  intro contents start before after outcome
  have told : Dialect.detect (Line.numbered 0 contents) = .ok .gcc := by decide +kernel
  have made : ofLines contents = .ok start := ofLines_of_detect told
  have movable : before.movable = [1, 3, 4] := by decide +kernel
  have origins : [1, 3, 4].map outcome.origin = [3, 1, 4] := by decide +kernel
  obtain ⟨-, listed, -, rearranged, fixed, -, small, change, -, dense⟩ :=
    reorder_moves_movable (.of_lines made) [(.append ["\t.text"], swappingStream)] .smallChanges
      swappingStream
  rw [movable] at listed small
  have still : ¬before.MayMove 2 := (listed 2).not.mp (by decide)
  have moved : outcome.origin 1 = 3 := by
    injection origins
  have inside : 1 < before.sections.length := by decide +kernel
  exact ⟨made, listed, origins ▸ small rfl, origins, still, fixed 2 still,
    change.mpr ⟨1, inside, by rw [moved]; decide⟩, rearranged, dense⟩

end Listing

end AsmLayout
