import AsmLayout.Proofs.Listing.Arrangement
import AsmLayout.Proofs.Listing.Edits

/-! # The directive that governs a line

A line belongs to the part of the output that the nearest directive at or before it names. A
reordering keeps the directive of every line behind a directive of its own section; any other line
takes what the sections in front of its own leave it.
-/

namespace AsmLayout

namespace Line

/-- A statement that opens a segment, or any other part of the output. -/
def isDirective (line : Line) : Bool :=
  line.isSegment || line.mnemonic? == some ".section"

end Line

def lastDirective? (lines : List Line) : Option String :=
  (lines.filter Line.isDirective).getLast?.map (·.content)

theorem lastDirective?_append (xs ys : List Line) :
    lastDirective? (xs ++ ys) = (lastDirective? ys).or (lastDirective? xs) := by
  unfold lastDirective?
  rw [List.filter_append, List.getLast?_append]
  cases (ys.filter Line.isDirective).getLast? with
  | none => rw [Option.none_or, Option.map_none, Option.none_or]
  | some line => rw [Option.some_or, Option.map_some, Option.some_or]

theorem lastDirective?_eq (lines : List Line) :
    lastDirective? lines =
      ((lines.map (·.content)).filter fun content => Line.isDirective ⟨content, 0⟩).getLast? := by
  unfold lastDirective?
  rw [List.filter_map, List.getLast?_map]
  rfl

theorem isSome_lastDirective? {lines : List Line} {line : Line} (listed : line ∈ lines)
    (directs : line.isDirective = true) : (lastDirective? lines).isSome = true := by
  have kept : line ∈ lines.filter Line.isDirective := List.mem_filter.mpr ⟨listed, directs⟩
  rw [lastDirective?, Option.isSome_map, List.getLast?_isSome]
  exact List.ne_nil_of_mem kept

namespace Section

/-- The last directive of a section down to one of its lines. -/
def directive? (sec : Section) (index : Nat) : Option String :=
  lastDirective? (sec.lines.take (index + 1))

theorem SameText.directive?_eq {sec former : Section} (same : sec.SameText former) (index : Nat) :
    sec.directive? index = former.directive? index := by
  have texts : sec.lines.map (·.content) = former.lines.map (·.content) := same.contents
  rw [directive?, directive?, lastDirective?_eq, lastDirective?_eq, List.map_take, List.map_take,
    texts]

theorem SameText.lastDirective?_eq {sec former : Section} (same : sec.SameText former) :
    lastDirective? sec.lines = lastDirective? former.lines := by
  have texts : sec.lines.map (·.content) = former.lines.map (·.content) := same.contents
  rw [AsmLayout.lastDirective?_eq, texts, ← AsmLayout.lastDirective?_eq]

end Section

namespace Listing

/-- The position in the whole file of a line of the section at a place. -/
def position (listing : Listing) (place index : Nat) : Nat :=
  ((listing.sections.take place).flatMap (·.lines)).length + index

/-- The directive that governs a position: the nearest one at or before it. -/
def governing? (listing : Listing) (position : Nat) : Option String :=
  lastDirective? (listing.lines.take (position + 1))

/-- The directive that governs the end of the sections in front of a place. -/
def inherited? (listing : Listing) (place : Nat) : Option String :=
  lastDirective? ((listing.sections.take place).flatMap (·.lines))

/-- A line is governed from inside its section, if it can be. -/
theorem governing?_position {listing : Listing} {place : Nat} {sec : Section}
    (there : listing.sections[place]? = some sec) {index : Nat} (inside : index < sec.lines.length) :
    listing.governing? (listing.position place index) =
      (sec.directive? index).or (listing.inherited? place) := by
  obtain ⟨bound, stands⟩ := List.getElem?_eq_some_iff.mp there
  have split : listing.lines =
      (listing.sections.take place).flatMap (·.lines) ++
        (sec.lines ++ (listing.sections.drop (place + 1)).flatMap (·.lines)) := by
    conv_lhs => rw [lines, ← List.take_append_drop place listing.sections]
    rw [List.flatMap_append, List.drop_eq_getElem_cons bound, stands, List.flatMap_cons]
  rw [governing?, position, split, Nat.add_assoc, List.take_length_add_append,
    List.take_append_of_le_length (Nat.succ_le_of_lt inside), lastDirective?_append]
  rfl

theorem inherited?_zero (listing : Listing) : listing.inherited? 0 = none := rfl

/-- The last directive of the section at a place. -/
def directiveAt? (listing : Listing) (place : Nat) : Option String :=
  listing.sections[place]?.bind fun sec => lastDirective? sec.lines

/-- What sections put one behind the other leave: the directive of the last one that holds any. -/
def leftBy? (listing : Listing) (places : List Nat) : Option String :=
  places.reverse.findSome? listing.directiveAt?

theorem leftBy?_concat (listing : Listing) (places : List Nat) (place : Nat) :
    listing.leftBy? (places ++ [place]) =
      (listing.directiveAt? place).or (listing.leftBy? places) := by
  rw [leftBy?, List.reverse_append, List.findSome?_append, leftBy?, List.reverse_singleton,
    List.findSome?_singleton]

theorem inherited?_succ (listing : Listing) (place : Nat) :
    listing.inherited? (place + 1) =
      (listing.directiveAt? place).or (listing.inherited? place) := by
  rw [inherited?, List.take_add_one, List.flatMap_append, lastDirective?_append, directiveAt?,
    inherited?]
  cases listing.sections[place]? with
  | none => rfl
  | some sec => rw [Option.toList_some, List.flatMap_singleton, Option.bind_some]

theorem inherited?_eq_leftBy? (listing : Listing) (place : Nat) :
    listing.inherited? place = listing.leftBy? (List.range place) := by
  induction place with
  | zero => rfl
  | succ place ih => rw [inherited?_succ, ih, List.range_succ, leftBy?_concat]

/-- Rearranged sections leave what their originals leave in the order of the origins. -/
theorem inherited?_of_rearranged {origin : Nat → Nat} {before after : Listing}
    (rearranged : Rearranged origin before.sections after.sections) {place : Nat}
    (inside : place ≤ after.sections.length) :
    after.inherited? place = before.leftBy? ((List.range place).map origin) := by
  induction place with
  | zero => rfl
  | succ place ih =>
      have there := List.getElem?_eq_getElem inside
      obtain ⟨former, stood, same⟩ := rearranged.text there
      have kept : after.directiveAt? place = before.directiveAt? (origin place) := by
        rw [directiveAt?, directiveAt?, there, stood, Option.bind_some, Option.bind_some,
          same.lastDirective?_eq]
      rw [inherited?_succ, ih (Nat.le_of_succ_le inside), List.range_succ, List.map_append,
        List.map_singleton, leftBy?_concat, kept]

variable {G : Type} [Random.Generator G]

theorem governing?_reorder (mode : StructureMode) (before : Listing) (g : G) {place : Nat}
    {sec : Section} (there : (before.reorder mode g).1.1.sections[place]? = some sec) {index : Nat}
    (inside : index < sec.lines.length) :
    let after := (before.reorder mode g).1.1
    let origin := (before.reorder mode g).1.2.origin
    after.governing? (after.position place index) =
        (sec.directive? index).or (after.inherited? place) ∧
      before.governing? (before.position (origin place) index) =
        (sec.directive? index).or (before.inherited? (origin place)) := by
  intro after origin
  obtain ⟨former, stood, same⟩ := (rearranged_reorder mode before g).text there
  have long : index < former.lines.length := by rwa [← same.length]
  refine ⟨governing?_position there inside, ?_⟩
  rw [same.directive?_eq]
  exact governing?_position stood long

/-- A directive of its own section governs a line wherever the section stands, and nothing moves in
    front of the first section. -/
theorem governing?_reorder_eq (mode : StructureMode) (before : Listing) (g : G) {place : Nat}
    {sec : Section} (there : (before.reorder mode g).1.1.sections[place]? = some sec) {index : Nat}
    (inside : index < sec.lines.length)
    (settled : place = 0 ∨ (sec.directive? index).isSome = true) :
    let after := (before.reorder mode g).1.1
    let origin := (before.reorder mode g).1.2.origin
    after.governing? (after.position place index) =
      before.governing? (before.position (origin place) index) := by
  intro after origin
  obtain ⟨now, earlier⟩ := governing?_reorder mode before g there inside
  rw [now, earlier]
  rcases settled with rfl | own
  · rw [(origin_reorder_eq_zero_iff mode before g 0).mpr rfl, inherited?_zero, inherited?_zero]
  · obtain ⟨directive, found⟩ := Option.isSome_iff_exists.mp own
    rw [found, Option.some_or, Option.some_or]

end Listing

namespace Line

theorem isSegment_of_normalized_eq {line : Line} (normal : line.normalized = ".text".toList) :
    line.isSegment = true := by
  have spelled : line.words = [".text".toList] :=
    Text.words_of_normalize_eq normal (by decide) (by decide)
  have unlabelled : line.isLabel = false := by
    rw [isLabel, spelled]
    decide
  have nonblank : line.isBlank = false := by
    cases blank : line.isBlank with
    | false => rfl
    | true =>
        have : line.words = [] := (Text.words_eq_nil_iff line.chars).mpr blank
        rw [this] at spelled
        contradiction
  have unslashed : line.isSlashed = false := by
    have opening : Text.words line.chars = ['.' :: "text".toList] := spelled
    rw [isSlashed, Text.head?_trimStart opening]
    decide
  have starts : line.startsWith ("." ++ "text") = true := by
    rw [startsWith, normal]
    decide
  have named : segmentNames.any (fun name =>
      line.startsWith ("." ++ name) || line.startsWith (".section ." ++ name)) = true := by
    rw [List.any_eq_true]
    exact ⟨"text", by decide, by rw [starts, Bool.true_or]⟩
  rw [isSegment, isSegmentOf, isStatement, unlabelled, nonblank, unslashed, named]
  rfl

theorem isDirective_of_splitsBefore {line : Line} (splits : Dialect.gcc.splitsBefore line = true) :
    line.isDirective = true := by
  have segment : line.isSegment = true := by
    rcases Bool.or_eq_true_iff.mp splits with bare | segment
    · exact isSegment_of_normalized_eq (beq_iff_eq.mp bare)
    · exact segment
  rw [isDirective, segment, Bool.true_or]

end Line

namespace Listing

variable {G : Type} [Random.Generator G]

/-- Behind the first, a section of this dialect opens with a directive of its own. -/
theorem Partitioned.isSome_directive? {listing : Listing} (partitioned : listing.Partitioned)
    (conventions : listing.dialect = .gcc) {place : Nat} {sec : Section}
    (there : listing.sections[place]? = some sec) (later : place ≠ 0) (index : Nat) :
    (sec.directive? index).isSome = true := by
  obtain ⟨earlier, rfl⟩ := Nat.exists_eq_succ_of_ne_zero later
  have behind : sec ∈ listing.sections.tail := by
    rw [← List.drop_one]
    apply List.mem_of_getElem? (i := earlier)
    rwa [List.getElem?_drop, Nat.add_comm]
  obtain ⟨line, rest, lines, splits⟩ := partitioned.sectioned.opened behind
  rw [conventions] at splits
  refine isSome_lastDirective? ?_ (Line.isDirective_of_splitsBefore splits)
  rw [lines, List.take_succ_cons]
  exact List.mem_cons_self ..

/-- No line of this dialect is ever governed by another directive because its section moved. -/
theorem gcc_directives_kept {text : String} {start : Listing} (parsed : parse text = .ok start)
    (conventions : start.dialect = .gcc) (edits : List (Edit × G)) (mode : StructureMode) (g : G) :
    let before := start.edited edits
    let after := (before.reorder mode g).1.1
    let origin := (before.reorder mode g).1.2.origin
    Rearranged origin before.sections after.sections ∧
    ∀ place sec, after.sections[place]? = some sec → ∀ index < sec.lines.length,
      after.governing? (after.position place index) =
        before.governing? (before.position (origin place) index) := by
  intro before after origin
  have partitioned : before.Partitioned := (Built.of_text parsed).partitioned.edited edits
  have dialect : before.dialect = .gcc := (dialect_edited start edits).trans conventions
  have rearranged := rearranged_reorder mode before g
  refine ⟨rearranged, ?_⟩
  intro place sec there index inside
  apply governing?_reorder_eq mode before g there inside
  by_cases first : place = 0
  · exact .inl first
  · have moved := (origin_reorder_eq_zero_iff mode before g place).not.mpr first
    obtain ⟨former, stood, same⟩ := rearranged.text there
    have own := partitioned.isSome_directive? dialect stood moved index
    rw [← same.directive?_eq] at own
    exact .inr own

/-- A generator whose next coin tells to swap. -/
def swappingStream : Random.Keystream :=
  { key := Vector.replicate 8 0, counter := 0, unread := [0, 0] }

/-- The block of `.bss` takes the place of that of `.data`. -/
theorem gcc_directives_kept_after_swap :
    let start : Listing := ⟨.gcc, partition .gcc (Line.numbered 0 ["\t.file \"a.c\"", "\t.text",
      "f:", "\t.cfi_startproc", "\t.data", "x:", "\t.bss", "y:"])⟩
    let before := start.edited [(.append ["\t.text"], swappingStream)]
    let after := (before.reorder .smallChanges swappingStream).1.1
    let origin := (before.reorder .smallChanges swappingStream).1.2.origin
    let sec := Section.ofLines .gcc (Line.numbered 4 ["\t.bss", "y:"])
    parse "\t.file \"a.c\"\n\t.text\nf:\n\t.cfi_startproc\n\t.data\nx:\n\t.bss\ny:\n" = .ok start ∧
      start.dialect = .gcc ∧ origin 2 = 3 ∧ after.sections[2]? = some sec ∧ 1 < sec.lines.length ∧
      after.governing? (after.position 2 1) = before.governing? (before.position (origin 2) 1) := by
  intro start before after origin sec
  have parsed : parse "\t.file \"a.c\"\n\t.text\nf:\n\t.cfi_startproc\n\t.data\nx:\n\t.bss\ny:\n" =
      .ok start := by decide +kernel
  have moved : origin 2 = 3 := by decide +kernel
  have there : after.sections[2]? = some sec := by decide +kernel
  have inside : 1 < sec.lines.length := by decide
  exact ⟨parsed, rfl, moved, there, inside,
    (gcc_directives_kept parsed rfl _ .smallChanges swappingStream).2 2 sec there 1 inside⟩

/-- A line keeps its directive exactly when it stands in the first section, or its section holds a
    directive at or before it, or the sections that the drawn order puts in front leave the same
    directive as those that stood in front. Blocks that blank lines separate need not hold any. -/
theorem directive_kept_iff (before : Listing) (mode : StructureMode) (g : G) :
    let after := (before.reorder mode g).1.1
    let origin := (before.reorder mode g).1.2.origin
    Rearranged origin before.sections after.sections ∧
    ∀ place sec, after.sections[place]? = some sec → ∀ index < sec.lines.length,
      (after.governing? (after.position place index) =
          before.governing? (before.position (origin place) index) ↔
        place = 0 ∨ (sec.directive? index).isSome = true ∨
          before.leftBy? ((List.range place).map origin) =
            before.leftBy? (List.range (origin place))) := by
  intro after origin
  have rearranged := rearranged_reorder mode before g
  refine ⟨rearranged, ?_⟩
  intro place sec there index inside
  by_cases settled : place = 0 ∨ (sec.directive? index).isSome = true
  · have kept := governing?_reorder_eq mode before g there inside settled
    exact iff_of_true kept (or_assoc.mp (.inl settled))
  -- Nothing of its own governs the line, so what the sections in front leave does.
  · obtain ⟨later, bare⟩ := not_or.mp settled
    have own : sec.directive? index = none := Option.not_isSome_iff_eq_none.mp bare
    have within : place ≤ after.sections.length :=
      Nat.le_of_lt (List.getElem?_eq_some_iff.mp there).1
    obtain ⟨now, earlier⟩ := governing?_reorder mode before g there inside
    rw [now, earlier, own, Option.none_or, Option.none_or, inherited?_of_rearranged rearranged within,
      inherited?_eq_leftBy?]
    simp only [later, Option.isSome_none, Bool.false_eq_true, false_or, origin]

/-- A data block and two functions, each behind a blank line; the second function has no directive
    of its own. -/
def inheriting : Listing :=
  ⟨.libfirm, partition .libfirm (Line.numbered 0 ["\t.data", "x:", "", "\t.text", "# -- Begin f",
    "f:", "", "# -- Begin g", "g:", "", "\t.section .note.GNU-stack"])⟩

/-- The function behind a directive of its own keeps it where the other one does not. -/
theorem directive_kept_behind_own :
    let after := (inheriting.reorder .smallChanges swappingStream).1.1
    let origin := (inheriting.reorder .smallChanges swappingStream).1.2.origin
    let sec := Section.ofLines .libfirm (Line.numbered 5 ["", "\t.text", "# -- Begin f", "f:"])
    origin 2 = 1 ∧ after.sections[2]? = some sec ∧ 3 < sec.lines.length ∧
      after.governing? (after.position 2 3) =
        inheriting.governing? (inheriting.position (origin 2) 3) := by
  intro after origin sec
  have moved : origin 2 = 1 := by decide +kernel
  have there : after.sections[2]? = some sec := by decide +kernel
  have inside : 3 < sec.lines.length := by decide
  have own : (sec.directive? 3).isSome = true := by decide +kernel
  exact ⟨moved, there, inside,
    ((directive_kept_iff inheriting .smallChanges swappingStream).2 2 sec there 3 inside).mpr
      (.inr (.inl own))⟩

/-- The function without a directive of its own changes places with the block in front of it, and
    with that from `.text` to `.data`. -/
theorem function_leaves_text :
    let after := (inheriting.reorder .smallChanges swappingStream).1.1
    let origin := (inheriting.reorder .smallChanges swappingStream).1.2.origin
    parse ("\t.data\nx:\n\n\t.text\n# -- Begin f\nf:\n\n# -- Begin g\ng:\n\n" ++
      "\t.section .note.GNU-stack\n") = .ok inheriting ∧
    inheriting.dialect = .libfirm ∧ origin 1 = 2 ∧
    (after.sections[1]?.bind fun sec => sec.lines[2]?) = some ⟨"g:", 4⟩ ∧
    (⟨"g:", 4⟩ : Line).isFunctionLabel = true ∧
    inheriting.governing? (inheriting.position 2 2) = some "\t.text" ∧
    after.governing? (after.position 1 2) = some "\t.data" := by
  decide +kernel

end Listing

end AsmLayout
