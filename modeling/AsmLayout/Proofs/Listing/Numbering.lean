import AsmLayout.Listing.Padding
import AsmLayout.Proofs.Listing.Partition

/-! # Dense numbers

Partitioned listings number their lines from zero on, so their texts alone tell them apart, and zero
is the number of the very first line.
-/

namespace AsmLayout

theorem Line.eq_of_content_of_number {xs ys : List Line}
    (contents : xs.map (·.content) = ys.map (·.content))
    (numbers : xs.map (·.number) = ys.map (·.number)) : xs = ys := by
  induction xs generalizing ys with
  | nil => exact (List.map_eq_nil_iff.mp contents.symm).symm
  | cons x xs ih =>
      cases ys with
      | nil => contradiction
      | cons y ys =>
          injection contents with content contents
          injection numbers with number numbers
          rw [ih contents numbers]
          cases x
          cases y
          simp_all

namespace Section

theorem SameText.symm {sec former : Section} (same : sec.SameText former) : former.SameText sec :=
  ⟨same.kind.symm, same.dialect.symm, same.contents.symm⟩

theorem SameText.trans {first second third : Section} (former : first.SameText second)
    (later : second.SameText third) : first.SameText third :=
  ⟨former.kind.trans later.kind, former.dialect.trans later.dialect,
    former.contents.trans later.contents⟩

theorem SameText.eq_of_number {sec former : Section} (same : sec.SameText former)
    (numbers : sec.lines.map (·.number) = former.lines.map (·.number)) : sec = former := by
  have lines : sec.lines = former.lines := Line.eq_of_content_of_number same.contents numbers
  cases sec
  cases former
  exact Section.mk.injEq .. ▸ ⟨same.kind, same.dialect, lines⟩

end Section

namespace Listing

theorem sections_eq_of_number {sections others : List Section}
    (same : List.Forall₂ Section.SameText sections others)
    (numbers : (sections.flatMap (·.lines)).map (·.number) =
      (others.flatMap (·.lines)).map (·.number)) : sections = others := by
  induction same with
  | nil => rfl
  | cons first _ ih =>
      rw [List.flatMap_cons, List.flatMap_cons, List.map_append, List.map_append] at numbers
      obtain ⟨own, later⟩ := List.append_inj numbers (by simpa using first.length)
      rw [first.eq_of_number own, ih later]

theorem length_flatMap_lines {sections others : List Section}
    (same : List.Forall₂ Section.SameText sections others) :
    (sections.flatMap (·.lines)).length = (others.flatMap (·.lines)).length := by
  induction same with
  | nil => rfl
  | cons first _ ih =>
      rw [List.flatMap_cons, List.flatMap_cons, List.length_append, List.length_append, ih, first.length]

theorem Partitioned.eq_of_sameText {listing other : Listing} (partitioned : listing.Partitioned)
    (partitioned' : other.Partitioned) (dialect : listing.dialect = other.dialect)
    (same : List.Forall₂ Section.SameText listing.sections other.sections) : listing = other := by
  have numbers : listing.lines.map (·.number) = other.lines.map (·.number) := by
    rw [partitioned.dense, partitioned'.dense, lineCount, lineCount, lines, lines,
      length_flatMap_lines same]
  have sections := sections_eq_of_number same numbers
  cases listing
  cases other
  exact Listing.mk.injEq .. ▸ ⟨dialect, sections⟩

theorem Partitioned.dense_of_mem {listing : Listing} (partitioned : listing.Partitioned)
    {sec : Section} (member : sec ∈ listing.sections) :
    sec.lines.map (·.number) = List.range' sec.firstNumber sec.lines.length := by
  obtain ⟨front, back, split⟩ := List.append_of_mem member
  have dense := partitioned.dense
  rw [lineCount, lines, split, List.flatMap_append, List.flatMap_cons, List.range_eq_range',
    List.length_append, List.length_append, List.map_append, List.map_append,
    ← List.range'_append_1, ← List.range'_append_1] at dense
  obtain ⟨-, behind⟩ := List.append_inj dense (by simp)
  obtain ⟨own, -⟩ := List.append_inj behind (by simp)
  cases some : sec.lines with
  | nil => rfl
  | cons line rest =>
      rw [some] at own
      have first : sec.firstNumber = line.number := by rw [Section.firstNumber, some]
      rw [List.length_cons, List.map_cons, List.range'_succ, List.cons.injEq] at own
      rw [first, List.length_cons, List.map_cons, List.range'_succ, own.1, own.2]

theorem Partitioned.number_ne_zero {listing : Listing} (partitioned : listing.Partitioned)
    {sec : Section} (member : sec ∈ listing.sections) {line : Line} (inner : line ∈ sec.lines.tail) :
    line.number ≠ 0 := by
  have behind : line ∈ listing.lines.tail := by
    obtain ⟨front, back, split⟩ := List.append_of_mem member
    rw [lines, split, List.flatMap_append, List.flatMap_cons]
    cases (front.flatMap (·.lines)) with
    | nil =>
        cases inside : sec.lines with
        | nil => simp [inside] at inner
        | cons first rest =>
            rw [inside] at inner
            exact List.mem_append_left _ inner
    | cons first rest =>
        exact List.mem_append_right _ (List.mem_append_left _ (List.mem_of_mem_tail inner))
  have positive : line.number ∈ (listing.lines.map (·.number)).tail := by
    rw [← List.map_tail]
    exact List.mem_map_of_mem behind
  rw [partitioned.dense, List.range_eq_range', List.tail_range', List.mem_range'_1] at positive
  omega

theorem renumberFrom_related {α : Type} {sections : List Section} {edits : List (Section × α)}
    {R : Section → Section × α → Prop} {S : Section → Section → Prop}
    (each : List.Forall₂ R sections edits)
    (numbered : ∀ {sec edit sec'}, R sec edit → sec'.SameText edit.1 → S sec sec') (start : Nat) :
    List.Forall₂ S sections (renumberFrom start (edits.map Prod.fst)) := by
  induction each generalizing start with
  | nil => exact .nil
  | cons first _ ih => exact .cons (numbered first (Section.renumber_sameText ..)) (ih _)

theorem Partitioned.withEdits_eq {α : Type} {listing : Listing} (partitioned : listing.Partitioned)
    {edits : List (Section × α)} (edited : (listing.withEdits edits).Partitioned)
    (same : List.Forall₂ (fun sec edit => edit.1.SameText sec) listing.sections edits) :
    listing.withEdits edits = listing := by
  refine edited.eq_of_sameText partitioned rfl ?_
  apply List.Forall₂.flip
  exact renumberFrom_related same (fun edited numbered => numbered.trans edited) 0

end Listing

end AsmLayout
