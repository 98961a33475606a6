import AsmLayout.Proofs.Section.Epilogue

/-! # The extents of a section

Padding works on extents, found from left to right: the lines of a function from its label to its
end, or a function end without a label in front. One pass over a buffer that grows under the cursor
comes to the same as replacing every extent of the original lines on its own, since the lines behind
the cursor are still the original ones.
-/

namespace AsmLayout

/-- A part of some lines that padding looks at, by positions. -/
inductive Extent where
  /-- A function end without a label in front. -/
  | orphan (position : Nat)
  /-- The lines of a function: its label stands at `start`, its last line before `stop`. -/
  | function (start stop : Nat)
  deriving Repr, DecidableEq

namespace Extent

/-- The position of the first line of an extent. -/
def start : Extent → Nat
  | orphan position => position
  | function start _ => start

/-- The position behind the last line of an extent. -/
def stop : Extent → Nat
  | orphan position => position + 1
  | function _ stop => stop

/-- The lines from one position up to another. -/
def slice (lines : List Line) (start stop : Nat) : List Line :=
  (lines.drop start).take (stop - start)

/-- The first position from a cursor on where a line has a property. -/
def firstFrom? (property : Line → Bool) (lines : List Line) (cursor : Nat) : Option Nat :=
  ((lines.drop cursor).findIdx? property).map (cursor + ·)

/-- The position behind the first function end from a cursor on, or behind all lines. -/
def stopFrom (lines : List Line) (cursor : Nat) : Nat :=
  match firstFrom? Line.isFunctionEnd lines cursor with
  | some position => position + 1
  | none => lines.length

/-- The first extent from a cursor on. -/
def next? (lines : List Line) (cursor : Nat) : Option Extent :=
  match firstFrom? (fun line => line.isFunctionEnd || line.isFunctionLabel) lines cursor with
  | none => none
  | some position =>
    if lines[position]?.any Line.isFunctionEnd then some (orphan position)
    else some (function position (stopFrom lines (position + 1)))

theorem firstFrom?_eq_some {property : Line → Bool} {lines : List Line} {cursor position : Nat}
    (first : firstFrom? property lines cursor = some position) :
    ∃ gap line rest, lines.drop cursor = gap ++ line :: rest ∧ property line = true ∧
      (∀ other ∈ gap, property other = false) ∧ position = cursor + gap.length := by
  obtain ⟨index, found, rfl⟩ := Option.map_eq_some_iff.mp first
  obtain ⟨inside, holds, before⟩ := List.findIdx?_eq_some_iff_getElem.mp found
  refine ⟨(lines.drop cursor).take index, (lines.drop cursor)[index],
    (lines.drop cursor).drop (index + 1), ?_, holds, ?_, ?_⟩
  · rw [← List.drop_eq_getElem_cons, List.take_append_drop]
  · intro other member
    obtain ⟨earlier, bound, rfl⟩ := List.getElem_of_mem member
    rw [List.length_take, Nat.lt_min] at bound
    rw [List.getElem_take]
    exact eq_false_of_ne_true (before earlier bound.1)
  · rw [List.length_take, Nat.min_eq_left (Nat.le_of_lt inside)]

theorem firstFrom?_eq_none {property : Line → Bool} {lines : List Line} {cursor : Nat}
    (none : firstFrom? property lines cursor = none) :
    ∀ line ∈ lines.drop cursor, property line = false := by
  rw [firstFrom?, Option.map_eq_none_iff, List.findIdx?_eq_none_iff] at none
  exact none

theorem firstFrom?_append (property : Line → Bool) (front rest : List Line) :
    firstFrom? property (front ++ rest) front.length =
      (rest.findIdx? property).map (front.length + ·) := by
  rw [firstFrom?, List.drop_left]

theorem firstFrom?_here {property : Line → Bool} {line : Line} (holds : property line = true)
    (front rest : List Line) :
    firstFrom? property (front ++ line :: rest) front.length = some front.length := by
  rw [firstFrom?_append, List.findIdx?_cons, if_pos holds]
  rfl

theorem firstFrom?_pass {property : Line → Bool} {line : Line} (other : property line = false)
    (front rest : List Line) :
    firstFrom? property (front ++ line :: rest) front.length =
      firstFrom? property (front ++ [line] ++ rest) (front ++ [line]).length := by
  rw [firstFrom?_append, firstFrom?_append, List.findIdx?_cons, if_neg (by simp [other]),
    Option.map_map]
  congr 1
  funext index
  rw [List.length_append, List.length_singleton, Function.comp_apply, Nat.add_assoc,
    Nat.add_comm index]

theorem drop_behind_gap {lines gap rest : List Line} {cursor : Nat}
    (split : lines.drop cursor = gap ++ rest) : lines.drop (cursor + gap.length) = rest := by
  rw [← List.drop_drop, split, List.drop_left]

theorem take_append_slice (lines : List Line) {start stop : Nat} (le : start ≤ stop) :
    lines.take start ++ slice lines start stop = lines.take stop := by
  rw [slice, ← List.take_add, Nat.add_sub_cancel' le]

theorem slice_gap {lines gap rest : List Line} {cursor : Nat}
    (split : lines.drop cursor = gap ++ rest) : slice lines cursor (cursor + gap.length) = gap := by
  rw [slice, split, Nat.add_sub_cancel_left, List.take_left]

end Extent

namespace FramePart

theorem throughEnd_of_end {gap : List Line} (endless : ∀ line ∈ gap, line.isFunctionEnd = false)
    {last : Line} (ends : last.isFunctionEnd = true) (rest : List Line) :
    throughEnd (gap ++ last :: rest) = (gap ++ [last], rest) := by
  induction gap with
  | nil => rw [List.nil_append, throughEnd, if_pos ends, List.nil_append]
  | cons line gap ih =>
      have open' : ¬line.isFunctionEnd = true := by simp [endless line (List.mem_cons_self ..)]
      rw [List.cons_append, throughEnd, if_neg open',
        ih fun other member => endless other (List.mem_cons_of_mem _ member)]
      rfl

theorem throughEnd_of_endless {lines : List Line}
    (endless : ∀ line ∈ lines, line.isFunctionEnd = false) : throughEnd lines = (lines, []) := by
  induction lines with
  | nil => rfl
  | cons line rest ih =>
      have open' : ¬line.isFunctionEnd = true := by simp [endless line (List.mem_cons_self ..)]
      rw [throughEnd, if_neg open', ih fun other member => endless other (List.mem_cons_of_mem _ member)]

theorem throughEnd_drop {lines : List Line} {cursor : Nat} (bound : cursor ≤ lines.length) :
    ∃ body rest, lines.drop cursor = body ++ rest ∧ throughEnd (lines.drop cursor) = (body, rest) ∧
      Extent.stopFrom lines cursor = cursor + body.length := by
  rw [Extent.stopFrom]
  cases found : Extent.firstFrom? Line.isFunctionEnd lines cursor with
  | none =>
      refine ⟨lines.drop cursor, [], (List.append_nil _).symm, ?_, ?_⟩
      · exact throughEnd_of_endless (Extent.firstFrom?_eq_none found)
      · rw [List.length_drop, Nat.add_sub_cancel' bound]
  | some position =>
      obtain ⟨gap, last, rest, split, ends, endless, rfl⟩ := Extent.firstFrom?_eq_some found
      refine ⟨gap ++ [last], rest, ?_, ?_, ?_⟩
      · rw [split, List.append_assoc, List.singleton_append]
      · rw [split, throughEnd_of_end endless ends]
      · rw [List.length_append, List.length_singleton]
        exact Nat.add_assoc ..

theorem cut_of_end {line : Line} (ends : line.isFunctionEnd = true) (rest : List Line) :
    cut (line :: rest) = orphan line :: cut rest := by
  rw [cut, if_pos ends]

theorem cut_of_label {line : Line} (open' : line.isFunctionEnd = false)
    (labels : line.isFunctionLabel = true) (rest : List Line) :
    cut (line :: rest) = function (line :: (throughEnd rest).1) :: cut (throughEnd rest).2 := by
  rw [cut, if_neg (by simp [open']), if_pos labels]

theorem cut_of_plain {line : Line} (open' : line.isFunctionEnd = false)
    (plain : line.isFunctionLabel = false) (rest : List Line) :
    cut (line :: rest) = outside line :: cut rest := by
  rw [cut, if_neg (by simp [open']), if_neg (by simp [plain])]

theorem cut_append {gap : List Line}
    (outsiders : ∀ line ∈ gap, (line.isFunctionEnd || line.isFunctionLabel) = false)
    (rest : List Line) : cut (gap ++ rest) = gap.map .outside ++ cut rest := by
  induction gap with
  | nil => rfl
  | cons line gap ih =>
      obtain ⟨unended, unlabelled⟩ := Bool.or_eq_false_iff.mp (outsiders line (List.mem_cons_self ..))
      rw [List.cons_append, cut_of_plain unended unlabelled,
        ih fun other member => outsiders other (List.mem_cons_of_mem _ member)]
      rfl

end FramePart

namespace Extent

theorem cut_of_next?_none {lines : List Line} {cursor : Nat} (none : next? lines cursor = none) :
    FramePart.cut (lines.drop cursor) = (lines.drop cursor).map .outside := by
  have outsiders : firstFrom? (fun line => line.isFunctionEnd || line.isFunctionLabel) lines cursor =
      Option.none := by
    rw [next?] at none
    split at none
    · assumption
    · split at none <;> contradiction
  have whole := FramePart.cut_append (firstFrom?_eq_none outsiders) []
  rwa [List.append_nil, FramePart.cut, List.append_nil] at whole

/-- What the first extent from a cursor on makes of the lines there. -/
inductive Leads (lines : List Line) (cursor : Nat) : Extent → Prop where
  | orphan (gap : List Line) (line : Line) (rest : List Line)
      (split : lines.drop cursor = gap ++ ([line] ++ rest))
      (parts : FramePart.cut (lines.drop cursor) =
        gap.map .outside ++ .orphan line :: FramePart.cut rest) :
      Leads lines cursor (.orphan (cursor + gap.length))
  | function (gap body rest : List Line) (nonempty : body ≠ [])
      (split : lines.drop cursor = gap ++ (body ++ rest))
      (parts : FramePart.cut (lines.drop cursor) =
        gap.map .outside ++ .function body :: FramePart.cut rest) :
      Leads lines cursor (.function (cursor + gap.length) (cursor + gap.length + body.length))

theorem leads_of_next? {lines : List Line} {cursor : Nat} {extent : Extent}
    (next : next? lines cursor = some extent) : Leads lines cursor extent := by
  rw [next?] at next
  split at next
  · contradiction
  · rename_i position found
    obtain ⟨gap, line, rest, split, landmark, outsiders, rfl⟩ := firstFrom?_eq_some found
    have there : lines[cursor + gap.length]? = some line := by
      rw [← List.head?_drop, drop_behind_gap split, List.head?_cons]
    have parts := FramePart.cut_append outsiders (line :: rest)
    rw [← split] at parts
    split at next
    · rename_i ends
      rw [there, Option.any_some] at ends
      cases next
      rw [FramePart.cut_of_end ends] at parts
      exact .orphan gap line rest split parts
    · rename_i unended
      rw [there, Option.any_some] at unended
      cases next
      have label : line.isFunctionLabel = true := by simpa [unended] using landmark
      rw [FramePart.cut_of_label (eq_false_of_ne_true unended) label] at parts
      have inner : lines.drop (cursor + gap.length + 1) = rest := by
        rw [← List.drop_drop, drop_behind_gap split, List.drop_one, List.tail_cons]
      obtain ⟨body, behind, whole, through, stop⟩ :=
        FramePart.throughEnd_drop (List.getElem?_eq_some_iff.mp there).1
      rw [inner] at whole through
      rw [through] at parts
      rw [whole] at split
      have reach : cursor + gap.length + 1 + body.length =
          cursor + gap.length + (line :: body).length := by
        rw [List.length_cons]
        omega
      rw [stop, reach]
      exact .function gap (line :: body) behind (List.cons_ne_nil line body) split parts

theorem bounds_of_next? {lines : List Line} {cursor : Nat} {extent : Extent}
    (next : next? lines cursor = some extent) :
    cursor ≤ extent.start ∧ extent.start < extent.stop ∧ extent.stop ≤ lines.length := by
  cases leads_of_next? next with
  | orphan gap line rest split parts =>
      have length := congrArg List.length split
      simp only [List.length_drop, List.length_append, List.length_singleton] at length
      simp only [start, stop]
      omega
  | function gap body rest nonempty split parts =>
      have length := congrArg List.length split
      have positive := List.length_pos_iff.mpr nonempty
      simp only [List.length_drop, List.length_append] at length
      simp only [start, stop]
      omega

def numberAt (lines : List Line) (position : Nat) : Nat :=
  (lines[position]?.map (·.number)).getD 0

def scan (lines : List Line) (cursor : Nat) : List Extent :=
  match _next : next? lines cursor with
  | none => []
  | some extent => extent :: scan lines extent.stop
termination_by lines.length - cursor
decreasing_by
  have := bounds_of_next? _next
  omega

/-- One pass over a buffer. The functions in front of the cursor are done; one that is padded puts
    its new lines into the buffer, and the cursor behind them. -/
def sweep (dialect : Dialect) (amount : Nat) (buffer : List Line) (cursor : Nat) :
    List Line × List FrameOutcome :=
  match _next : next? buffer cursor with
  | none => (buffer, [])
  | some (.orphan position) =>
    let (lines, outcomes) := sweep dialect amount buffer (position + 1)
    (lines, .skipped (.missingLabel (numberAt buffer position)) :: outcomes)
  | some (.function start stop) =>
    let body := slice buffer start stop
    match Frame.pad dialect amount body with
    | .ok padded =>
      let (lines, outcomes) :=
        sweep dialect amount (buffer.take start ++ padded.lines ++ buffer.drop stop)
          (start + padded.lines.length)
      (lines, .padded (Frame.functionName body) amount padded.returns :: outcomes)
    | .error reason =>
      let (lines, outcomes) := sweep dialect amount buffer stop
      (lines, .skipped reason :: outcomes)
termination_by buffer.length - cursor
decreasing_by
  all_goals
    have := bounds_of_next? _next
    simp only [Extent.start, Extent.stop, List.length_append, List.length_take,
      List.length_drop] at *
    omega

/-- The lines that padding leaves of an extent, taken on its own. -/
def replacement (dialect : Dialect) (amount : Nat) (lines : List Line) (extent : Extent) :
    List Line :=
  let body := slice lines extent.start extent.stop
  match extent with
  | orphan _ => body
  | function _ _ =>
    match Frame.pad dialect amount body with
    | .ok padded => padded.lines
    | .error _ => body

/-- What becomes of an extent, taken on its own. -/
def outcome (dialect : Dialect) (amount : Nat) (lines : List Line) (extent : Extent) :
    FrameOutcome :=
  let body := slice lines extent.start extent.stop
  match extent with
  | orphan position => .skipped (.missingLabel (numberAt lines position))
  | function _ _ =>
    match Frame.pad dialect amount body with
    | .ok padded => .padded (Frame.functionName body) amount padded.returns
    | .error reason => .skipped reason

/-- Lines from a cursor on in which extents are replaced. -/
def splice (replace : Extent → List Line) (lines : List Line) : Nat → List Extent → List Line
  | cursor, [] => lines.drop cursor
  | cursor, extent :: rest =>
    slice lines cursor extent.start ++ replace extent ++ splice replace lines extent.stop rest

end Extent

namespace FramePart

/-- What padding leaves of all parts of some lines, and what becomes of the functions. -/
def padAll (dialect : Dialect) (amount : Nat) (lines : List Line) :
    List Line × List FrameOutcome :=
  let parts := (cut lines).map (pad dialect amount)
  (parts.flatMap (·.1), parts.filterMap (·.2))

theorem pad_outside (dialect : Dialect) (amount : Nat) (gap : List Line) :
    ((gap.map outside).map (pad dialect amount)).flatMap (·.1) = gap ∧
      ((gap.map outside).map (pad dialect amount)).filterMap (·.2) = [] := by
  induction gap with
  | nil => exact ⟨rfl, rfl⟩
  | cons line gap ih =>
      simp only [List.map_cons, List.flatMap_cons, List.filterMap_cons, pad]
      exact ⟨congrArg (line :: ·) ih.1, ih.2⟩

variable {dialect : Dialect} {amount : Nat}

theorem padAll_outside {lines : List Line} (parts : cut lines = lines.map outside) :
    padAll dialect amount lines = (lines, []) := by
  obtain ⟨same, silent⟩ := pad_outside dialect amount lines
  simp only [padAll, parts, same, silent]

theorem padAll_cons {lines gap rest : List Line} {part : FramePart} {outcome : FrameOutcome}
    (parts : cut lines = gap.map outside ++ part :: cut rest)
    (told : (part.pad dialect amount).2 = some outcome) :
    padAll dialect amount lines =
      (gap ++ (part.pad dialect amount).1 ++ (padAll dialect amount rest).1,
        outcome :: (padAll dialect amount rest).2) := by
  obtain ⟨same, silent⟩ := pad_outside dialect amount gap
  simp only [padAll, parts, List.map_append, List.map_cons, List.flatMap_append, List.flatMap_cons,
    List.filterMap_append, List.filterMap_cons, same, silent, told, List.append_assoc,
    List.nil_append]

end FramePart

namespace Extent

theorem padAll_of_next? {lines : List Line} {cursor : Nat} {extent : Extent}
    (next : next? lines cursor = some extent) (dialect : Dialect) (amount : Nat) :
    FramePart.padAll dialect amount (lines.drop cursor) =
      (slice lines cursor extent.start ++ replacement dialect amount lines extent ++
          (FramePart.padAll dialect amount (lines.drop extent.stop)).1,
        outcome dialect amount lines extent ::
          (FramePart.padAll dialect amount (lines.drop extent.stop)).2) := by
  cases leads_of_next? next with
  | orphan gap line rest split parts =>
      have behind := drop_behind_gap split
      have number : numberAt lines (cursor + gap.length) = line.number := by
        rw [numberAt, ← List.head?_drop, behind]
        rfl
      have one : slice lines (cursor + gap.length) (cursor + gap.length + 1) = [line] :=
        slice_gap behind
      have after : lines.drop (cursor + gap.length + 1) = rest := drop_behind_gap behind
      rw [FramePart.padAll_cons parts rfl]
      simp only [start, stop, replacement, outcome, slice_gap split, one, after, number,
        FramePart.pad]
  | function gap body rest nonempty split parts =>
      have behind := drop_behind_gap split
      have whole := slice_gap behind
      have after := drop_behind_gap behind
      cases pads : Frame.pad dialect amount body with
      | ok padded =>
          have told : (FramePart.function body).pad dialect amount = (padded.lines,
              some (.padded (Frame.functionName body) amount padded.returns)) := by
            rw [FramePart.pad, pads]
          rw [FramePart.padAll_cons parts (congrArg Prod.snd told), told]
          simp only [start, stop, replacement, outcome, slice_gap split, whole, after, pads]
      | error reason =>
          have told : (FramePart.function body).pad dialect amount =
              (body, some (.skipped reason)) := by
            rw [FramePart.pad, pads]
          rw [FramePart.padAll_cons parts (congrArg Prod.snd told), told]
          simp only [start, stop, replacement, outcome, slice_gap split, whole, after, pads]

/-- The buffer in front of the cursor is not touched any more, and behind it stand original lines. -/
theorem sweep_eq (dialect : Dialect) (amount : Nat) (buffer : List Line) (cursor : Nat) :
    sweep dialect amount buffer cursor =
      (buffer.take cursor ++ (FramePart.padAll dialect amount (buffer.drop cursor)).1,
        (FramePart.padAll dialect amount (buffer.drop cursor)).2) := by
  fun_induction sweep dialect amount buffer cursor with
  | case1 buffer cursor next =>
      rw [FramePart.padAll_outside (cut_of_next?_none next), List.take_append_drop]
  | case2 buffer cursor position next lines outcomes swept ih =>
      rw [ih, Prod.mk.injEq] at swept
      obtain ⟨rfl, rfl⟩ := swept
      obtain ⟨ahead, within, -⟩ := bounds_of_next? next
      rw [padAll_of_next? next, replacement, ← List.append_assoc, ← List.append_assoc,
        take_append_slice buffer ahead, take_append_slice buffer (Nat.le_of_lt within)]
      rfl
  -- The buffer grew under the cursor, which stands behind the new lines.
  | case3 buffer cursor start stop next body padded pads lines outcomes swept ih =>
      rw [ih, Prod.mk.injEq] at swept
      obtain ⟨rfl, rfl⟩ := swept
      obtain ⟨ahead, within, inside⟩ : cursor ≤ start ∧ start < stop ∧ stop ≤ buffer.length :=
        bounds_of_next? next
      have length : (buffer.take start ++ padded.lines).length = start + padded.lines.length := by
        rw [List.length_append, List.length_take]
        omega
      have pads : Frame.pad dialect amount (slice buffer start stop) = .ok padded := pads
      rw [padAll_of_next? next, List.take_left' length, List.drop_left' length]
      simp only [replacement, outcome, Extent.start, Extent.stop, pads, body, ← List.append_assoc,
        take_append_slice buffer ahead]
  | case4 buffer cursor start stop next body reason fails lines outcomes swept ih =>
      rw [ih, Prod.mk.injEq] at swept
      obtain ⟨rfl, rfl⟩ := swept
      obtain ⟨ahead, within, -⟩ : cursor ≤ start ∧ start < stop ∧ stop ≤ buffer.length :=
        bounds_of_next? next
      have fails : Frame.pad dialect amount (slice buffer start stop) = .error reason := fails
      rw [padAll_of_next? next]
      simp only [replacement, outcome, Extent.start, Extent.stop, fails, ← List.append_assoc,
        take_append_slice buffer ahead, take_append_slice buffer (Nat.le_of_lt within)]

theorem splice_scan (dialect : Dialect) (amount : Nat) (lines : List Line) (cursor : Nat) :
    splice (replacement dialect amount lines) lines cursor (scan lines cursor) =
      (FramePart.padAll dialect amount (lines.drop cursor)).1 := by
  fun_induction scan lines cursor with
  | case1 cursor next => rw [splice, FramePart.padAll_outside (cut_of_next?_none next)]
  | case2 cursor extent next ih => rw [splice, ih, padAll_of_next? next]

theorem map_outcome_scan (dialect : Dialect) (amount : Nat) (lines : List Line) (cursor : Nat) :
    (scan lines cursor).map (outcome dialect amount lines) =
      (FramePart.padAll dialect amount (lines.drop cursor)).2 := by
  fun_induction scan lines cursor with
  | case1 cursor next => rw [FramePart.padAll_outside (cut_of_next?_none next), List.map_nil]
  | case2 cursor extent next ih => rw [List.map_cons, ih, padAll_of_next? next]

theorem bounds_of_mem_scan {lines : List Line} {cursor : Nat} {extent : Extent}
    (found : extent ∈ scan lines cursor) :
    cursor ≤ extent.start ∧ extent.start < extent.stop ∧ extent.stop ≤ lines.length := by
  fun_induction scan lines cursor with
  | case1 => contradiction
  | case2 cursor first next ih =>
      have bounds := bounds_of_next? next
      rcases List.mem_cons.mp found with rfl | later
      · exact bounds
      · have := ih later
        omega

theorem numberAt_of_dense {lines : List Line} {first position : Nat}
    (dense : lines.map (·.number) = List.range' first lines.length)
    (inside : position < lines.length) : numberAt lines position = first + position := by
  rw [numberAt, ← List.getElem?_map, dense, List.getElem?_range' inside, Option.getD_some,
    Nat.one_mul]

theorem number_of_slice {lines : List Line} {first start stop index number : Nat}
    (dense : lines.map (·.number) = List.range' first lines.length)
    (there : (slice lines start stop)[index]?.map (·.number) = some number) :
    number = first + (start + index) := by
  rw [slice, List.getElem?_take] at there
  split at there
  · rw [List.getElem?_drop, ← List.getElem?_map, dense] at there
    obtain ⟨bound, found⟩ := List.getElem?_eq_some_iff.mp there
    rw [List.getElem_range', Nat.one_mul] at found
    exact found.symm
  · contradiction

end Extent

/-- Pad the frames of a section in one pass over its lines. -/
def Section.sweepFrames (amount : Nat) (sec : Section) : Section × List FrameOutcome :=
  let (lines, outcomes) := Extent.sweep sec.dialect (alignDown amount) sec.lines 0
  (sec.edit lines,
    if outcomes.isEmpty then [.skipped (.missingLabel sec.firstNumber)] else outcomes)

theorem Section.padFrames_eq_sweepFrames (amount : Nat) (sec : Section) :
    sec.padFrames amount = sec.sweepFrames amount := by
  rw [sweepFrames, Extent.sweep_eq, List.take_zero, List.nil_append, List.drop_zero]
  rfl

theorem PaddingReport.length_ofOutcomes (outcomes : List FrameOutcome) :
    (ofOutcomes outcomes).padded.length + (ofOutcomes outcomes).skipped.length =
      outcomes.length := by
  induction outcomes with
  | nil => rfl
  | cons outcome rest ih =>
      simp only [ofOutcomes] at ih
      cases outcome <;> simp only [ofOutcomes, List.filterMap_cons, List.length_cons] <;> omega

/-- Padding is all or nothing for each function and local to it. A section is cut into extents as it
    was; each of them is replaced by what padding makes of it on its own, which is itself where
    padding fails, and the other lines stay. The report has one entry for each extent, in order, and
    it names lines by the numbers that they had. -/
theorem Section.padFrames_extentwise {sec : Section}
    (dense : sec.lines.map (·.number) = List.range' sec.firstNumber sec.lines.length)
    (amount : Nat) :
    let after := (sec.padFrames amount).1
    let outcomes := (sec.padFrames amount).2
    let report := PaddingReport.ofOutcomes outcomes
    let aligned := alignDown amount
    let extents := Extent.scan sec.lines 0
    sec.padFrames amount = sec.sweepFrames amount ∧
    after.contents = (Extent.splice (Extent.replacement sec.dialect aligned sec.lines) sec.lines 0
      extents).map (·.content) ∧
    outcomes = (if extents.isEmpty then [.skipped (.missingLabel sec.firstNumber)]
      else extents.map (Extent.outcome sec.dialect aligned sec.lines)) ∧
    report.padded.length + report.skipped.length = max 1 extents.length ∧
    (∀ position, .orphan position ∈ extents →
      Extent.outcome sec.dialect aligned sec.lines (.orphan position) =
        .skipped (.missingLabel (sec.firstNumber + position))) ∧
    (∀ start stop function number, .function start stop ∈ extents →
      Frame.pad sec.dialect aligned (Extent.slice sec.lines start stop) =
        .error (.missingEpilogue function number) →
      ∃ point ret, Frame.Unreleased (Extent.slice sec.lines start stop) point ret ∧
        number = sec.firstNumber + (start + ret)) := by
  intro after outcomes report aligned extents
  have told := Extent.map_outcome_scan sec.dialect aligned sec.lines 0
  have left := Extent.splice_scan sec.dialect aligned sec.lines 0
  rw [List.drop_zero] at told left
  have reported : outcomes = (if extents.isEmpty then [.skipped (.missingLabel sec.firstNumber)]
      else extents.map (Extent.outcome sec.dialect aligned sec.lines)) := by
    rw [told, ← List.isEmpty_map (f := Extent.outcome sec.dialect aligned sec.lines), told]
    rfl
  refine ⟨sec.padFrames_eq_sweepFrames amount, ?_, reported, ?_, ?_, ?_⟩
  · rw [left]
    exact sec.contents_edit _
  · rw [PaddingReport.length_ofOutcomes, reported]
    cases extents with
    | nil => rfl
    | cons extent rest => simp
  · intro position found
    have bounds := Extent.bounds_of_mem_scan found
    rw [Extent.outcome, Extent.numberAt_of_dense dense (by exact bounds.2.2)]
  · intro start stop function number found fails
    obtain ⟨-, point, ret, unreleased, there⟩ := Frame.unreleased_of_pad fails
    exact ⟨point, ret, unreleased, Extent.number_of_slice dense there⟩

/-- A function that fails at its return, a stray function end, and a function that is padded. -/
theorem Section.padFrames_extentwise_beside_failure :
    let sec := ofLines .gcc (Line.numbered 7 ["f:", "\tpushq\t%rbp", "\tret", "\t.cfi_endproc",
      "\tnop", "\t.cfi_endproc", "g:", "\tpushq\t%rbp", "\tleave", "\tret", "\t.cfi_endproc"])
    sec.lines.map (·.number) = List.range' sec.firstNumber sec.lines.length ∧
    Extent.scan sec.lines 0 = [.function 0 4, .orphan 5, .function 6 11] ∧
    (sec.padFrames 40).1.contents = ["f:", "\tpushq\t%rbp", "\tret", "\t.cfi_endproc", "\tnop",
      "\t.cfi_endproc", "g:", "\tpushq\t%rbp", "\tsubq $32, %rsp", "\tmovq %rbp, %rsp",
      "\taddq $32, %rsp", "\tpopq %rbp", "\tret", "\t.cfi_endproc"] ∧
    (sec.padFrames 40).2 = [.skipped (.missingEpilogue "f" 9), .skipped (.missingLabel 12),
      .padded "g" 32 1] := by
  intro sec
  have dense : sec.lines.map (·.number) = List.range' sec.firstNumber sec.lines.length := by decide
  have cut : Extent.scan sec.lines 0 = [.function 0 4, .orphan 5, .function 6 11] := by
    decide +kernel
  obtain ⟨-, left, told, -⟩ := padFrames_extentwise dense 40
  refine ⟨dense, cut, ?_, ?_⟩
  · rw [left, cut]
    decide +kernel
  · rw [told, cut]
    decide +kernel

end AsmLayout
