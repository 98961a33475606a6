import AsmLayout.Proofs.Draws
import AsmLayout.Proofs.Listing.Partition

/-! # Reordered listings stay partitioned

The first section never moves, and every other one opens with a boundary already, so any order of
the others is a partition as well.
-/

namespace AsmLayout

namespace Listing

theorem Sectioned.rearranged {dialect : Dialect} {first : Section} {rest others : List Section}
    (sectioned : Sectioned dialect (first :: rest)) (known : ∀ sec ∈ others, sec ∈ rest) :
    Sectioned dialect (first :: others) := by
  have all : ∀ sec ∈ first :: others, sec ∈ first :: rest := by
    intro sec member
    rcases List.mem_cons.mp member with rfl | later
    · exact List.mem_cons_self ..
    · exact List.mem_cons_of_mem _ (known sec later)
  refine ⟨⟨?_, ?_, ?_⟩, ?_⟩
  · intro part member
    obtain ⟨sec, listed, rfl⟩ := List.mem_map.mp member
    exact sectioned.cut.nonempty _ (List.mem_map_of_mem (all sec listed))
  · intro part member
    obtain ⟨sec, listed, rfl⟩ := List.mem_map.mp member
    exact sectioned.cut.inside _ (List.mem_map_of_mem (all sec listed))
  · intro part member
    obtain ⟨sec, listed, rfl⟩ := List.mem_map.mp member
    exact sectioned.cut.opened _ (List.mem_map_of_mem (known sec listed))
  · intro sec member
    exact sectioned.made sec (all sec member)

theorem zero_not_mem_movable (listing : Listing) : 0 ∉ listing.movable := by
  simp [movable]

theorem source_eq_zero_iff {positions sources : List Nat} (fixed : 0 ∉ positions)
    (inner : 0 ∉ sources) (position : Nat) :
    ((positions.zip sources).lookup position).getD position = 0 ↔ position = 0 := by
  cases found : (positions.zip sources).lookup position with
  | none => rfl
  | some source =>
      have pair : (position, source) ∈ positions.zip sources := by
        obtain ⟨before, after, split, _⟩ := List.lookup_eq_some_iff.mp found
        rw [split]
        exact List.mem_append_right _ (List.mem_cons_self ..)
      obtain ⟨target, origin⟩ := List.of_mem_zip pair
      constructor
      · rintro rfl
        exact absurd origin inner
      · rintro rfl
        exact absurd target fixed

theorem arrange_cons (first : Section) (rest : List Section) {positions sources : List Nat}
    (fixed : 0 ∉ positions) (inner : 0 ∉ sources) :
    ∃ others, arrange (first :: rest) positions sources = first :: others ∧
      ∀ sec ∈ others, sec ∈ rest := by
  have zero := (source_eq_zero_iff fixed inner 0).mpr rfl
  rw [arrange, List.length_cons, List.range_succ_eq_map, List.filterMap_cons, zero,
    List.getElem?_cons_zero]
  refine ⟨_, rfl, ?_⟩
  intro sec member
  rw [List.filterMap_map] at member
  obtain ⟨position, _, taken⟩ := List.mem_filterMap.mp member
  have moved := (source_eq_zero_iff fixed inner (position + 1)).not.mpr (Nat.succ_ne_zero position)
  obtain ⟨source, found⟩ := Nat.exists_eq_succ_of_ne_zero moved
  simp only [Function.comp_apply, found, List.getElem?_cons_succ] at taken
  exact List.mem_of_getElem? taken

variable {G : Type} [Random.Generator G]

/-- Either the order drawn is the one that was there, and nothing happens, or the sections are arranged
    in the order drawn. -/
theorem reorder_cases (mode : StructureMode) (listing : Listing) (g : G) :
    let drawn := (drawOrder mode listing.movable g).1
    let reordered := (listing.reorder mode g).1
    (drawn = listing.movable ∧ reordered.1 = listing ∧ reordered.2.isChange = false) ∨
    (drawn ≠ listing.movable ∧ reordered =
      (⟨listing.dialect, renumberFrom 0 (arrange listing.sections listing.movable drawn)⟩,
        .reordered listing.movable drawn)) := by
  intro drawn reordered
  simp only [reordered, Listing.reorder]
  split
  · rename_i few
    exact .inl ⟨drawOrder_of_length_lt_two few, rfl, rfl⟩
  · split
    · rename_i same
      exact .inl ⟨same, rfl, rfl⟩
    · rename_i other
      exact .inr ⟨other, rfl⟩

theorem Partitioned.reorder {listing : Listing} (partitioned : listing.Partitioned)
    (mode : StructureMode) (g : G) : (listing.reorder mode g).1.1.Partitioned := by
  rcases reorder_cases mode listing g with ⟨-, same, -⟩ | ⟨-, arranged⟩
  · rwa [same]
  · rw [arranged]
    have fixed := listing.zero_not_mem_movable
    have inner : 0 ∉ (drawOrder mode listing.movable g).1 :=
      (drawOrder_perm mode listing.movable g).mem_iff.not.mpr fixed
    have taken : Sectioned listing.dialect
        (arrange listing.sections listing.movable (drawOrder mode listing.movable g).1) := by
      have sectioned := partitioned.sectioned
      cases sections : listing.sections with
      | nil =>
          rw [sections] at sectioned
          exact sectioned
      | cons first rest =>
          obtain ⟨others, arranged, known⟩ := arrange_cons first rest fixed inner
          rw [sections] at sectioned
          rw [arranged]
          exact sectioned.rearranged known
    exact taken.renumber

end Listing

end AsmLayout
