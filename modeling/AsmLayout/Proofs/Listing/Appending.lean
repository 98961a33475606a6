import AsmLayout.Proofs.Listing.Arrangement
import AsmLayout.Proofs.Listing.Edits
import AsmLayout.Proofs.Listing.Numbering

/-! # Appended lines

An append splits the whole file anew, and yet it only goes on where the file ends: the last section
takes the new lines down to the first that opens a section, and the others are split among
themselves. So lines may be appended in as many pieces as one likes.
-/

namespace AsmLayout

section

variable {α : Type} {p : α → Bool}

theorem span_append_of_break {xs : List α} (breaks : xs.dropWhile p ≠ []) (ys : List α) :
    (xs ++ ys).takeWhile p = xs.takeWhile p ∧ (xs ++ ys).dropWhile p = xs.dropWhile p ++ ys := by
  have parts := congrArg List.length (List.takeWhile_append_dropWhile (p := p) (l := xs))
  have broken := List.length_pos_of_ne_nil breaks
  rw [List.length_append] at parts
  rw [List.takeWhile_append, if_neg (by omega), List.dropWhile_append, if_neg (by simpa using breaks)]
  exact ⟨rfl, rfl⟩

/-- Elements behind a list go to its last run down to the first that starts one. -/
theorem runs_append {starts : α → Bool} {xs : List α} {earlier : List (List α)} {last : List α}
    (whole : runs starts xs = earlier ++ [last]) (ys : List α) :
    runs starts (xs ++ ys) = earlier ++
      (last ++ ys.takeWhile (!starts ·)) :: runs starts (ys.dropWhile (!starts ·)) := by
  fun_induction runs starts xs generalizing earlier with
  | case1 => simp at whole
  | case2 x xs ih =>
      have again := flatten_runs starts (xs.dropWhile (!starts ·))
      cases earlier with
      | nil =>
          obtain ⟨rfl, none⟩ := List.cons.inj whole
          rw [none, List.flatten_nil, eq_comm, List.dropWhile_eq_nil_iff] at again
          rw [List.cons_append, runs, List.takeWhile_append_of_pos again,
            List.dropWhile_append_of_pos again, List.takeWhile_eq_self_iff.mpr again]
          rfl
      | cons first others =>
          -- A run follows the first one, so no line behind can reach it.
          obtain ⟨rfl, later⟩ := List.cons.inj whole
          have breaks : xs.dropWhile (!starts ·) ≠ [] := by
            intro none
            rw [none, runs] at later
            exact absurd later.symm (List.append_ne_nil_of_right_ne_nil _ (List.cons_ne_nil _ _))
          obtain ⟨taken, dropped⟩ := span_append_of_break breaks ys
          rw [List.cons_append, runs, taken, dropped, ih later]
          rfl

end

namespace Line

theorem numbered_append (start : Nat) (xs ys : List String) :
    numbered start (xs ++ ys) = numbered start xs ++ numbered (start + xs.length) ys := by
  induction xs generalizing start with
  | nil => rfl
  | cons x xs ih =>
      rw [List.cons_append, numbered, ih, numbered, List.cons_append, List.length_cons,
        Nat.add_assoc, Nat.add_comm 1]

theorem numbered_contents {lines : List Line}
    (dense : lines.map (·.number) = List.range lines.length) :
    numbered 0 (lines.map (·.content)) = lines := by
  apply eq_of_content_of_number
  · rw [content_numbered]
  · rw [number_numbered, dense, List.length_map, List.range_eq_range']

end Line

namespace Listing

theorem partition_append {dialect : Dialect} {xs : List Line} {earlier : List Section}
    {last : Section} (whole : partition dialect xs = earlier ++ [last]) (ys : List Line) :
    partition dialect (xs ++ ys) = earlier ++
      Section.ofLines dialect (last.lines ++ ys.takeWhile (!dialect.splitsBefore ·)) ::
        partition dialect (ys.dropWhile (!dialect.splitsBefore ·)) := by
  have cut : runs dialect.splitsBefore xs = earlier.map (·.lines) ++ [last.lines] := by
    rw [← map_lines_partition, whole, List.map_append, List.map_singleton]
  have remade : (earlier.map (·.lines)).map (Section.ofLines dialect) = earlier := by
    apply map_ofLines
    intro sec member
    apply (sectioned_partition dialect xs).made sec
    rw [whole]
    exact List.mem_append_left _ member
  rw [partition, runs_append cut, List.map_append, remade, List.map_cons, partition]

/-- The new lines, numbered on from the last one. -/
def added (listing : Listing) (contents : List String) : List Line :=
  Line.numbered listing.lineCount contents

variable {listing : Listing}

theorem Partitioned.numbered_append (partitioned : listing.Partitioned) (contents : List String) :
    Line.numbered 0 (listing.lines.map (·.content) ++ contents) =
      listing.lines ++ listing.added contents := by
  rw [Line.numbered_append, Line.numbered_contents partitioned.dense, List.length_map,
    Nat.zero_add]
  rfl

theorem Partitioned.lines_append (partitioned : listing.Partitioned) (contents : List String) :
    (listing.append contents).lines = listing.lines ++ listing.added contents := by
  rw [lines, append, lines_partition, partitioned.numbered_append]

theorem Partitioned.sections_append (partitioned : listing.Partitioned) {earlier : List Section}
    {last : Section} (whole : listing.sections = earlier ++ [last]) (contents : List String) :
    (listing.append contents).sections = earlier ++
      Section.ofLines listing.dialect
        (last.lines ++ (listing.added contents).takeWhile (!listing.dialect.splitsBefore ·)) ::
        partition listing.dialect
          ((listing.added contents).dropWhile (!listing.dialect.splitsBefore ·)) := by
  have cut := partitioned.sectioned.eq_partition
  rw [append, partitioned.numbered_append]
  exact partition_append (cut.symm.trans whole) _

theorem Partitioned.append_append (partitioned : listing.Partitioned)
    (contents others : List String) :
    (listing.append contents).append others = listing.append (contents ++ others) := by
  have texts : (listing.append contents).lines.map (·.content) =
      listing.lines.map (·.content) ++ contents := by
    rw [partitioned.lines_append, List.map_append, added, Line.content_numbered]
  rw [append, texts, List.append_assoc]
  rfl

theorem Partitioned.append_nil (partitioned : listing.Partitioned) : listing.append [] = listing := by
  have cut := partitioned.sectioned.eq_partition
  rw [append, partitioned.numbered_append, added, Line.numbered, List.append_nil, lines, ← cut]

theorem append_of_ofLines {contents : List String} (made : ofLines contents = .ok listing)
    {others : List String}
    (told : Dialect.detect (Line.numbered 0 (contents ++ others)) = .ok listing.dialect) :
    ofLines (contents ++ others) = .ok (listing.append others) := by
  have texts : listing.lines.map (·.content) = contents := by
    rw [lines_of_ofLines made, Line.content_numbered]
  rw [ofLines_of_detect told, append, texts]

theorem Built.sections_ne_nil (built : listing.Built) : listing.sections ≠ [] := by
  cases built with
  | of_lines made => exact sections_ne_nil_of_detect (detect_of_ofLines made)
  | of_text made => exact sections_ne_nil_of_detect (detect_of_ofLines made)

theorem length_withEdits {α : Type} (edits : List (Section × α)) :
    (listing.withEdits edits).sections.length = edits.length := by
  have numbered := (renumberFrom_sameText 0 (edits.map Prod.fst)).length_eq
  rw [List.length_map] at numbered
  exact numbered.symm

variable {G : Type} [Random.Generator G]

theorem Partitioned.length_sections_le (partitioned : listing.Partitioned) (edit : Edit) (g : G) :
    listing.sections.length ≤ (edit.apply listing g).sections.length := by
  have traversed {α : Type} (step : Section → G → (Section × α) × G) :
      listing.sections.length ≤
        (listing.withEdits (Random.traverse step listing.sections g).1).sections.length := by
    rw [length_withEdits, ← (Random.traverse_forall₂ (R := fun _ _ => True)
      (fun _ _ => trivial) listing.sections g).length_eq]
  cases edit with
  | append contents =>
      rcases List.eq_nil_or_concat' listing.sections with none | ⟨earlier, last, whole⟩
      · rw [none]
        exact Nat.zero_le _
      · rw [Edit.apply, partitioned.sections_append whole, whole]
        simp
  | renumber => exact (renumberFrom_sameText 0 listing.sections).length_eq.le
  | reorder mode => exact (rearranged_reorder mode listing g).length.ge
  | padFrames range =>
      rw [Edit.apply, Listing.padFrames]
      split
      · exact Nat.le_refl _
      · exact traversed _
  | shuffleSegment segment => exact traversed _
  | padAllocations range width => exact traversed _

theorem Partitioned.sections_edited_ne_nil (partitioned : listing.Partitioned)
    (some : listing.sections ≠ []) (edits : List (Edit × G)) :
    (listing.edited edits).sections ≠ [] := by
  induction edits generalizing listing with
  | nil => exact some
  | cons step rest ih =>
      refine ih (partitioned.apply step.1 step.2) ?_
      have grown := partitioned.length_sections_le step.1 step.2
      exact List.ne_nil_of_length_pos ((List.length_pos_of_ne_nil some).trans_le grown)

theorem Sectioned.kind_grown_iff {dialect : Dialect} {sections : List Section}
    (sectioned : Sectioned dialect sections) {sec : Section} (member : sec ∈ sections)
    (own : List Line) :
    (Section.ofLines dialect (sec.lines ++ own)).kind = .function ↔
      sec.kind = .function ∨
        ∃ line ∈ own, line.isFunctionLabel = true ∨ dialect.isFunctionMarker line = true := by
  rw [Section.kind_ofLines_iff, sectioned.function_iff member]
  simp only [List.mem_append, or_and_right, exists_or]

/-- An append leaves all sections but the last as they are. That one takes the new lines down to the
    first that the dialect splits before, and the others are split on their own. So appends add up, an
    empty one does nothing, and lines that a listing is built from may as well be appended, so long as
    they tell the same dialect. -/
theorem append_incremental {start : Listing} (built : start.Built) (edits : List (Edit × G))
    (contents : List String) :
    let before := start.edited edits
    let after := before.append contents
    let fresh := before.added contents
    let own := fresh.takeWhile (!start.dialect.splitsBefore ·)
    let others := fresh.dropWhile (!start.dialect.splitsBefore ·)
    after.dialect = start.dialect ∧
    (∃ earlier last grown, before.sections = earlier ++ [last] ∧
      after.sections = earlier ++ grown :: partition start.dialect others ∧
      grown.lines = last.lines ++ own ∧ grown.dialect = last.dialect ∧
      (grown.kind = .function ↔ last.kind = .function ∨
        ∃ line ∈ own, line.isFunctionLabel = true ∨
          start.dialect.isFunctionMarker line = true)) ∧
    (∀ later, after.append later = before.append (contents ++ later)) ∧
    before.append [] = before ∧
    ∀ xs ys dialect, Dialect.detect (Line.numbered 0 xs) = .ok dialect →
      Dialect.detect (Line.numbered 0 (xs ++ ys)) = .ok dialect →
      ∃ listing, ofLines xs = .ok listing ∧ ofLines (xs ++ ys) = .ok (listing.append ys) := by
  intro before after fresh own others
  have partitioned : before.Partitioned := built.partitioned.edited edits
  have dialect : before.dialect = start.dialect := dialect_edited start edits
  have sectioned := partitioned.sectioned
  rw [dialect] at sectioned
  refine ⟨dialect, ?_, partitioned.append_append contents, partitioned.append_nil, ?_⟩
  · have some : before.sections ≠ [] :=
      built.partitioned.sections_edited_ne_nil built.sections_ne_nil edits
    obtain ⟨earlier, last, whole⟩ := (List.eq_nil_or_concat' _).resolve_left some
    have member : last ∈ before.sections := by
      rw [whole]
      exact List.mem_append_right _ (List.mem_singleton_self last)
    have made := congrArg Section.dialect (sectioned.made last member)
    have cut := partitioned.sections_append whole contents
    rw [dialect] at cut
    exact ⟨earlier, last, _, whole, cut, rfl, made.symm, sectioned.kind_grown_iff member own⟩
  · intro xs ys dialect told told'
    have made := ofLines_of_detect told
    exact ⟨_, made, append_of_ofLines made told'⟩

/-- A data section takes a function in, and a segment comes behind it, after a call was padded. -/
theorem append_incremental_into_data :
    let contents := ["\t.cfi_sections .eh", "\t.text", "f:", "\tcall malloc", "\t.data"]
    let start : Listing := ⟨.gcc, partition .gcc (Line.numbered 0 contents)⟩
    let g : Random.Keystream := ⟨Vector.replicate 8 0, 0, [0, 0x80000000]⟩
    let before := start.edited [(Edit.padAllocations ⟨8, 24⟩ .bits64, g)]
    let more := ["g:", "\tret", "\t.bss", "y:"]
    ofLines contents = .ok start ∧
    (∃ earlier last grown, before.sections = earlier ++ [last] ∧
      (before.append more).sections =
        earlier ++ [grown, Section.ofLines .gcc [⟨"\t.bss", 8⟩, ⟨"y:", 9⟩]] ∧
      grown.lines = last.lines ++ [⟨"g:", 6⟩, ⟨"\tret", 7⟩] ∧ grown.kind = .function) ∧
    (before.append ["g:"]).append ["\tret", "\t.bss", "y:"] = before.append more ∧
    ofLines (contents ++ more) = .ok (start.append more) := by
  intro contents start g before more
  have told : Dialect.detect (Line.numbered 0 contents) = .ok .gcc := by decide +kernel
  have told' : Dialect.detect (Line.numbered 0 (contents ++ more)) = .ok .gcc := by decide +kernel
  have made : ofLines contents = .ok start := ofLines_of_detect told
  have fresh : before.added more =
      [⟨"g:", 6⟩, ⟨"\tret", 7⟩, ⟨"\t.bss", 8⟩, ⟨"y:", 9⟩] := by decide +kernel
  have own : [⟨"g:", 6⟩, ⟨"\tret", 7⟩, ⟨"\t.bss", 8⟩, ⟨"y:", 9⟩].takeWhile
      (!start.dialect.splitsBefore ·) = [⟨"g:", 6⟩, ⟨"\tret", 7⟩] := by decide +kernel
  have others : partition start.dialect ([⟨"g:", 6⟩, ⟨"\tret", 7⟩, ⟨"\t.bss", 8⟩,
      ⟨"y:", 9⟩].dropWhile (!start.dialect.splitsBefore ·)) =
        [Section.ofLines .gcc [⟨"\t.bss", 8⟩, ⟨"y:", 9⟩]] := by decide +kernel
  obtain ⟨-, ⟨earlier, last, grown, whole, cut, taken, -, kind⟩, -, -, together⟩ :=
    append_incremental (.of_lines made) [(Edit.padAllocations ⟨8, 24⟩ .bits64, g)] more
  obtain ⟨-, -, adds, -, -⟩ :=
    append_incremental (.of_lines made) [(Edit.padAllocations ⟨8, 24⟩ .bits64, g)] ["g:"]
  obtain ⟨listing, built, appended⟩ := together contents more .gcc told told'
  cases made.symm.trans built
  rw [fresh] at cut taken kind
  rw [others] at cut
  rw [own] at taken kind
  exact ⟨made, ⟨earlier, last, grown, whole, cut, taken,
    kind.mpr (.inr ⟨_, List.mem_cons_self .., .inl (by decide +kernel)⟩)⟩, adds _, appended⟩

end Listing

end AsmLayout
