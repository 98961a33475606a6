import AsmLayout.Listing
import AsmLayout.Proofs.Runs
import AsmLayout.Proofs.Section.Reshaping

/-! # Partitioned listings

A listing is partitioned when its sections are what a fresh partition of its lines would give, and
its lines are numbered from zero on. Reshaping the sections one by one and numbering their lines anew
keeps it so.
-/

namespace AsmLayout

theorem Line.number_numbered (start : Nat) (contents : List String) :
    (Line.numbered start contents).map (·.number) = List.range' start contents.length := by
  induction contents generalizing start with
  | nil => rfl
  | cons content rest ih =>
      rw [Line.numbered, List.map_cons, ih, List.length_cons, List.range'_succ]

theorem Line.content_numbered (start : Nat) (contents : List String) :
    (Line.numbered start contents).map (·.content) = contents := by
  induction contents generalizing start with
  | nil => rfl
  | cons content rest ih => rw [Line.numbered, List.map_cons, ih]

theorem Line.number_renumber (start : Nat) (lines : List Line) :
    (Line.renumber start lines).map (·.number) = List.range' start lines.length := by
  induction lines generalizing start with
  | nil => rfl
  | cons line rest ih =>
      rw [Line.renumber, List.map_cons, ih, List.length_cons, List.range'_succ]

theorem Line.dense_of_number_eq {lines : List Line} {count : Nat}
    (numbers : lines.map (·.number) = List.range' 0 count) :
    lines.map (·.number) = List.range lines.length := by
  have length : lines.length = count := by
    rw [← List.length_map (·.number), numbers, List.length_range']
  rw [numbers, length, List.range_eq_range']

theorem exists_of_mem_right {α β : Type} {R : α → β → Prop} {xs : List α} {ys : List β}
    (each : List.Forall₂ R xs ys) : ∀ y ∈ ys, ∃ x ∈ xs, R x y := by
  induction each with
  | nil => simp
  | cons related _ ih =>
      intro y member
      rcases List.mem_cons.mp member with rfl | later
      · exact ⟨_, List.mem_cons_self .., related⟩
      · obtain ⟨x, earlier, found⟩ := ih y later
        exact ⟨x, List.mem_cons_of_mem _ earlier, found⟩

theorem IsCut.of_keepsLandmarks {starts : Line → Bool} {parts edited : List (List Line)}
    (tells : TellsLandmark starts) (cut : IsCut starts parts)
    (each : List.Forall₂ KeepsLandmarks parts edited) : IsCut starts edited where
  nonempty part' member := by
    obtain ⟨part, original, keeps⟩ := exists_of_mem_right each part' member
    have some := keeps.isEmpty
    rw [List.isEmpty_eq_false_iff.mpr (cut.nonempty part original)] at some
    exact List.isEmpty_eq_false_iff.mp some
  inside part' member line inner := by
    obtain ⟨part, original, keeps⟩ := exists_of_mem_right each part' member
    have none : part.tail.any starts = false := by
      rw [List.any_eq_false]
      intro line inner
      rw [cut.inside part original line inner]
      decide
    rw [← keeps.tail_any_eq tells, List.any_eq_false] at none
    exact eq_false_of_ne_true (none line inner)
  opened part' member := by
    have later : List.Forall₂ KeepsLandmarks parts.tail edited.tail := by
      rw [← List.drop_one, ← List.drop_one]
      exact List.forall₂_drop 1 each
    obtain ⟨part, original, keeps⟩ := exists_of_mem_right later part' member
    rw [keeps.head?_any_eq tells]
    exact cut.opened part original

theorem Section.kind_ofLines_iff {dialect : Dialect} {lines : List Line} :
    (ofLines dialect lines).kind = .function ↔
      ∃ line ∈ lines, line.isFunctionLabel = true ∨ dialect.isFunctionMarker line = true := by
  have found : holdsFunction dialect lines = true ↔
      ∃ line ∈ lines, line.isFunctionLabel = true ∨ dialect.isFunctionMarker line = true := by
    simp only [holdsFunction, List.any_eq_true, Bool.or_eq_true]
  rw [← found, ofLines]
  cases holdsFunction dialect lines <;> simp

namespace Listing

theorem renumberFrom_reshaped (start : Nat) (sections : List Section) :
    List.Forall₂ Section.Reshaped sections (renumberFrom start sections) := by
  induction sections generalizing start with
  | nil => exact .nil
  | cons sec rest ih => exact .cons (Section.reshaped_renumber start sec) (ih _)

theorem number_renumberFrom (start : Nat) (sections : List Section) :
    ((renumberFrom start sections).flatMap (·.lines)).map (·.number) =
      List.range' start (sections.flatMap (·.lines)).length := by
  induction sections generalizing start with
  | nil => rfl
  | cons sec rest ih =>
      rw [renumberFrom, List.flatMap_cons, List.map_append, ih, Section.renumber,
        Line.number_renumber, List.flatMap_cons, List.length_append, Section.nextNumber,
        List.range'_append_1]

/-- Sections as a partition makes them, apart from their numbers. -/
structure Sectioned (dialect : Dialect) (sections : List Section) : Prop where
  cut : IsCut dialect.splitsBefore (sections.map (·.lines))
  made : ∀ sec ∈ sections, sec = Section.ofLines dialect sec.lines

/-- The invariant of listings. -/
structure Partitioned (listing : Listing) : Prop where
  sectioned : Sectioned listing.dialect listing.sections
  dense : listing.lines.map (·.number) = List.range listing.lineCount

theorem map_ofLines {dialect : Dialect} {sections : List Section}
    (made : ∀ sec ∈ sections, sec = Section.ofLines dialect sec.lines) :
    (sections.map (·.lines)).map (Section.ofLines dialect) = sections := by
  have remade : sections.map (fun sec => Section.ofLines dialect sec.lines) = sections.map id := by
    apply List.map_congr_left
    intro sec member
    exact (made sec member).symm
  rw [List.map_map, Function.comp_def, remade, List.map_id]

theorem map_lines_partition (dialect : Dialect) (lines : List Line) :
    (partition dialect lines).map (·.lines) = runs dialect.splitsBefore lines := by
  rw [partition, List.map_map]
  exact List.map_id _

theorem sectioned_partition (dialect : Dialect) (lines : List Line) :
    Sectioned dialect (partition dialect lines) where
  cut := by
    rw [map_lines_partition]
    exact isCut_runs dialect.splitsBefore lines
  made sec member := by
    obtain ⟨run, _, rfl⟩ := List.mem_map.mp member
    rfl

theorem lines_partition (dialect : Dialect) (lines : List Line) :
    (partition dialect lines).flatMap (·.lines) = lines := by
  rw [List.flatMap_def, map_lines_partition, flatten_runs]

theorem partitioned_partition (dialect : Dialect) (contents : List String) :
    Partitioned ⟨dialect, partition dialect (Line.numbered 0 contents)⟩ where
  sectioned := sectioned_partition dialect _
  dense := by
    rw [lineCount, lines, lines_partition]
    exact Line.dense_of_number_eq (Line.number_numbered 0 contents)

theorem eq_of_ofLines {contents : List String} {listing : Listing}
    (made : ofLines contents = .ok listing) :
    Dialect.detect (Line.numbered 0 contents) = .ok listing.dialect ∧
      listing.sections = partition listing.dialect (Line.numbered 0 contents) := by
  unfold ofLines at made
  dsimp only at made
  cases told : Dialect.detect (Line.numbered 0 contents) with
  | error cause => simp [told] at made
  | ok dialect =>
      simp only [told, Except.ok.injEq] at made
      rw [← made]
      exact ⟨rfl, rfl⟩

theorem ofLines_of_detect {contents : List String} {dialect : Dialect}
    (told : Dialect.detect (Line.numbered 0 contents) = .ok dialect) :
    ofLines contents = .ok ⟨dialect, partition dialect (Line.numbered 0 contents)⟩ := by
  simp only [ofLines, told]

theorem lines_of_ofLines {contents : List String} {listing : Listing}
    (made : ofLines contents = .ok listing) : listing.lines = Line.numbered 0 contents := by
  rw [lines, (eq_of_ofLines made).2, lines_partition]

theorem detect_of_ofLines {contents : List String} {listing : Listing}
    (made : ofLines contents = .ok listing) :
    Dialect.detect listing.lines = .ok listing.dialect := by
  rw [lines_of_ofLines made]
  exact (eq_of_ofLines made).1

theorem sections_ne_nil_of_detect {listing : Listing} {dialect : Dialect}
    (told : Dialect.detect listing.lines = .ok dialect) : listing.sections ≠ [] := by
  -- Without lines no dialect is told.
  intro none
  rw [lines, none] at told
  contradiction

theorem partitioned_of_ofLines {contents : List String} {listing : Listing}
    (made : ofLines contents = .ok listing) : listing.Partitioned := by
  have whole : listing = ⟨listing.dialect, partition listing.dialect (Line.numbered 0 contents)⟩ := by
    rw [← (eq_of_ofLines made).2]
  rw [whole]
  exact partitioned_partition listing.dialect contents

namespace Sectioned

variable {dialect : Dialect} {sections edited : List Section}

/-- Sections with these properties are the partition of their lines, and of nothing else. -/
theorem eq_partition (sectioned : Sectioned dialect sections) :
    sections = partition dialect (sections.flatMap (·.lines)) := by
  calc
    sections
      = (sections.map (·.lines)).map (Section.ofLines dialect) := (map_ofLines sectioned.made).symm
    _ = (runs dialect.splitsBefore (sections.map (·.lines)).flatten).map
          (Section.ofLines dialect) := by
        rw [runs_flatten sectioned.cut]
    _ = partition dialect (sections.flatMap (·.lines)) := by rw [partition, List.flatMap_def]

theorem nonempty (sectioned : Sectioned dialect sections) {sec : Section}
    (member : sec ∈ sections) : sec.lines ≠ [] :=
  sectioned.cut.nonempty sec.lines (List.mem_map_of_mem member)

theorem inside (sectioned : Sectioned dialect sections) {sec : Section} (member : sec ∈ sections)
    {line : Line} (inner : line ∈ sec.lines.tail) : dialect.splitsBefore line = false :=
  sectioned.cut.inside sec.lines (List.mem_map_of_mem member) line inner

theorem opened (sectioned : Sectioned dialect sections) {sec : Section}
    (member : sec ∈ sections.tail) :
    ∃ line rest, sec.lines = line :: rest ∧ dialect.splitsBefore line = true := by
  have later : sec.lines ∈ (sections.map (·.lines)).tail := by
    rw [← List.map_tail]
    exact List.mem_map_of_mem member
  have front := sectioned.cut.opened sec.lines later
  cases lines : sec.lines with
  | nil => simp [lines] at front
  | cons line rest =>
      rw [lines, List.head?_cons, Option.any_some] at front
      exact ⟨line, rest, rfl, front⟩

theorem function_iff (sectioned : Sectioned dialect sections) {sec : Section}
    (member : sec ∈ sections) :
    sec.kind = .function ↔
      ∃ line ∈ sec.lines, line.isFunctionLabel = true ∨ dialect.isFunctionMarker line = true := by
  have kind := congrArg Section.kind (sectioned.made sec member)
  rw [kind, Section.kind_ofLines_iff]

theorem of_reshaped (sectioned : Sectioned dialect sections)
    (each : List.Forall₂ Section.Reshaped sections edited) : Sectioned dialect edited where
  cut := by
    have keeps : List.Forall₂ KeepsLandmarks (sections.map (·.lines)) (edited.map (·.lines)) := by
      rw [List.forall₂_map_left_iff, List.forall₂_map_right_iff]
      exact each.imp fun _ _ reshaped => reshaped.lines
    exact sectioned.cut.of_keepsLandmarks (.splitsBefore dialect) keeps
  made sec' member := by
    obtain ⟨sec, original, reshaped⟩ := exists_of_mem_right each sec' member
    exact reshaped.eq_ofLines (sectioned.made sec original)

theorem renumber (sectioned : Sectioned dialect sections) :
    Partitioned (Listing.renumber ⟨dialect, sections⟩) where
  sectioned := sectioned.of_reshaped (renumberFrom_reshaped 0 sections)
  dense := Line.dense_of_number_eq (number_renumberFrom 0 sections)

end Sectioned

end Listing

end AsmLayout
