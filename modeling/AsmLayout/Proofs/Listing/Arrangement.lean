import AsmLayout.Proofs.Listing.Order
import Mathlib.Data.List.Nodup
import Mathlib.Data.List.Perm.Basic
import Mathlib.Data.Set.Function
import Mathlib.Order.Interval.Set.Defs

/-! # Where reordered sections come from

A reordering takes the section of every place from one former place, and from no place twice. The
sections move as a whole: only the numbers of their lines are new.
-/

namespace AsmLayout

theorem exists_of_getElem? {α β : Type} {R : α → β → Prop} {xs : List α} {ys : List β}
    (each : List.Forall₂ R xs ys) {i : Nat} {y : β} (there : ys[i]? = some y) :
    ∃ x, xs[i]? = some x ∧ R x y := by
  induction each generalizing i with
  | nil => contradiction
  | cons related _ ih =>
      cases i with
      | zero =>
          rw [List.getElem?_cons_zero, Option.some.injEq] at there
          subst there
          exact ⟨_, rfl, related⟩
      | succ i => exact ih there

theorem map_some_eq {α : Type} (xs : List α) :
    xs.map some = (List.range xs.length).map fun place => xs[place]? := by
  apply List.ext_getElem (by simp)
  intro place there _
  simp

/-- A function that only puts a list in another order is a bijection of its elements. -/
theorem bijOn_of_map_perm {α : Type} {f : α → α} {xs : List α} (distinct : xs.Nodup)
    (ordered : (xs.map f).Perm xs) : Set.BijOn f {x | x ∈ xs} {x | x ∈ xs} := by
  refine ⟨?_, ?_, ?_⟩
  · intro x member
    exact ordered.mem_iff.mp (List.mem_map_of_mem member)
  · intro x member y member' same
    exact List.inj_on_of_nodup_map (ordered.nodup_iff.mpr distinct) member member' same
  · intro y member
    exact List.mem_map.mp (ordered.mem_iff.mpr member)

namespace OrderOutcome

/-- The former place of the section that a reordering leaves at a place. -/
def origin : OrderOutcome → Nat → Nat
  | reordered positions sources, place => ((positions.zip sources).lookup place).getD place
  | _, place => place

theorem origin_of_isChange_eq_false {outcome : OrderOutcome} (kept : outcome.isChange = false) :
    outcome.origin = id := by
  cases outcome with
  | tooFew | kept => rfl
  | reordered => contradiction

variable {positions sources : List Nat}

theorem origin_of_not_mem {place : Nat} (fixed : place ∉ positions) :
    (reordered positions sources).origin place = place := by
  have unlisted : (positions.zip sources).lookup place = none := by
    rw [List.lookup_eq_none_iff]
    rintro ⟨position, source⟩ pair
    apply bne_iff_ne.mpr
    rintro rfl
    exact fixed (List.of_mem_zip pair).1
  rw [origin, unlisted, Option.getD_none]

theorem map_origin_positions (nodup : positions.Nodup) (length : positions.length = sources.length) :
    positions.map (reordered positions sources).origin = sources := by
  induction positions generalizing sources with
  | nil => rw [List.map_nil, List.length_eq_zero_iff.mp length.symm]
  | cons position rest ih =>
      cases sources with
      | nil => contradiction
      | cons source others =>
          obtain ⟨fresh, distinct⟩ := List.nodup_cons.mp nodup
          have later : ∀ place ∈ rest,
              (reordered (position :: rest) (source :: others)).origin place =
                (reordered rest others).origin place := by
            intro place member
            have other : (place == position) = false := by
              apply beq_false_of_ne
              rintro rfl
              exact fresh member
            rw [origin, origin, List.zip_cons_cons, List.lookup_cons, other]
          rw [List.map_cons, List.map_congr_left later, ih distinct (Nat.succ.inj length), origin,
            List.zip_cons_cons, List.lookup_cons_self, Option.getD_some]

theorem range_perm {count : Nat} (nodup : positions.Nodup)
    (inside : ∀ position ∈ positions, position < count) :
    (List.range count).Perm ((List.range count).filter (· ∉ positions) ++ positions) := by
  have together : ((List.range count).filter (· ∉ positions) ++ positions).Nodup := by
    refine List.nodup_append.mpr ⟨List.nodup_range.filter _, nodup, ?_⟩
    rintro place other _ member rfl
    exact absurd member (by simpa using (List.mem_filter.mp other).2)
  rw [List.perm_ext_iff_of_nodup List.nodup_range together]
  intro place
  by_cases member : place ∈ positions
  · simp [member, inside place member]
  · simp [member]

theorem map_origin_fixed (count : Nat) :
    ((List.range count).filter (· ∉ positions)).map (reordered positions sources).origin =
      (List.range count).filter (· ∉ positions) := by
  rw [List.map_congr_left (g := id), List.map_id]
  intro place member
  exact origin_of_not_mem (by simpa using (List.mem_filter.mp member).2)

/-- Sources that are the positions in another order make the origins an order of all places. -/
theorem map_origin_perm {count : Nat} (nodup : positions.Nodup)
    (inside : ∀ position ∈ positions, position < count) (drawn : sources.Perm positions) :
    ((List.range count).map (reordered positions sources).origin).Perm (List.range count) := by
  have places := range_perm nodup inside
  have origins := places.map (reordered positions sources).origin
  rw [List.map_append, map_origin_positions nodup drawn.length_eq.symm, map_origin_fixed] at origins
  exact origins.trans ((drawn.append_left _).trans places.symm)

end OrderOutcome

/-- Sections that stand in other places, each with the text that it had at its origin. -/
structure Rearranged (origin : Nat → Nat) (before after : List Section) : Prop where
  length : after.length = before.length
  origins : ((List.range before.length).map origin).Perm (List.range before.length)
  text : ∀ {place : Nat} {sec : Section}, after[place]? = some sec →
    ∃ former, before[origin place]? = some former ∧ sec.SameText former

namespace Rearranged

variable {origin : Nat → Nat} {before after : List Section}

theorem refl (sections : List Section) : Rearranged id sections sections where
  length := rfl
  origins := by rw [List.map_id]
  text {place sec} there := ⟨sec, there, .refl sec⟩

theorem bijOn (rearranged : Rearranged origin before after) :
    Set.BijOn origin (Set.Iio before.length) (Set.Iio before.length) := by
  have places : {place | place ∈ List.range before.length} = Set.Iio before.length := by
    ext place
    exact List.mem_range
  rw [← places]
  exact bijOn_of_map_perm List.nodup_range rearranged.origins

theorem map_perm {β : Type} {f : Section → β}
    (textual : ∀ {sec former : Section}, sec.SameText former → f sec = f former)
    (rearranged : Rearranged origin before after) : (after.map f).Perm (before.map f) := by
  have taken : (after.map f).map some =
      ((List.range before.length).map origin).map fun place => (before.map f)[place]? := by
    rw [map_some_eq, List.length_map, rearranged.length, List.map_map]
    apply List.map_congr_left
    intro place inside
    have there : place < after.length := by
      rw [rearranged.length]
      exact List.mem_range.mp inside
    obtain ⟨former, stood, same⟩ := rearranged.text (List.getElem?_eq_getElem there)
    rw [Function.comp_apply, List.getElem?_map, List.getElem?_map, stood,
      List.getElem?_eq_getElem there, Option.map_some, Option.map_some, textual same]
  have reordered := rearranged.origins.map fun place => (before.map f)[place]?
  rw [← taken, ← List.length_map f, ← map_some_eq] at reordered
  exact (List.map_perm_map_iff (Option.some_injective β)).mp reordered

end Rearranged

namespace Listing

theorem renumberFrom_sameText (start : Nat) (sections : List Section) :
    List.Forall₂ (fun former sec => Section.SameText sec former) sections
      (renumberFrom start sections) := by
  induction sections generalizing start with
  | nil => exact .nil
  | cons sec rest ih => exact .cons (sec.renumber_sameText start) (ih _)

theorem nodup_movable (listing : Listing) : listing.movable.Nodup :=
  List.nodup_range.filter _

theorem lt_of_mem_movable {listing : Listing} {position : Nat}
    (member : position ∈ listing.movable) : position < listing.sections.length := by
  have := List.mem_range.mp (List.mem_filter.mp member).1
  omega

theorem map_some_arrange {sections : List Section} {positions sources : List Nat}
    (inside : ∀ place < sections.length,
      (OrderOutcome.reordered positions sources).origin place < sections.length) :
    (arrange sections positions sources).map some =
      (List.range sections.length).map fun place =>
        sections[(OrderOutcome.reordered positions sources).origin place]? := by
  have filled : ∀ taken ∈ (List.range sections.length).map (fun place =>
      sections[(OrderOutcome.reordered positions sources).origin place]?),
      taken.isSome = true := by
    intro taken member
    obtain ⟨place, listed, rfl⟩ := List.mem_map.mp member
    rw [List.getElem?_eq_getElem (inside place (List.mem_range.mp listed)), Option.isSome_some]
  calc
    (arrange sections positions sources).map some
      = ((List.range sections.length).map fun place =>
          sections[(OrderOutcome.reordered positions sources).origin place]?).filter
            (·.isSome) := List.map_filterMap_some_eq_filter_map_isSome ..
    _ = _ := List.filter_eq_self.mpr filled

variable {G : Type} [Random.Generator G]

theorem rearranged_arrange (listing : Listing) {sources : List Nat}
    (drawn : sources.Perm listing.movable) :
    Rearranged (OrderOutcome.reordered listing.movable sources).origin listing.sections
      (renumberFrom 0 (arrange listing.sections listing.movable sources)) := by
  have origins := OrderOutcome.map_origin_perm listing.nodup_movable
    (fun _ => lt_of_mem_movable) drawn
  have inside : ∀ place < listing.sections.length,
      (OrderOutcome.reordered listing.movable sources).origin place < listing.sections.length := by
    intro place inside
    exact List.mem_range.mp
      (origins.mem_iff.mp (List.mem_map_of_mem (List.mem_range.mpr inside)))
  have taken := map_some_arrange inside
  have each := renumberFrom_sameText 0 (arrange listing.sections listing.movable sources)
  have length : (arrange listing.sections listing.movable sources).length =
      listing.sections.length := by
    simpa using congrArg List.length taken
  refine ⟨each.length_eq.symm.trans length, origins, ?_⟩
  intro place sec there
  obtain ⟨former, stood, same⟩ := exists_of_getElem? each there
  have bound : place < listing.sections.length := by
    rw [← length]
    exact (List.getElem?_eq_some_iff.mp stood).1
  have found := congrArg (fun slots => slots[place]?) taken
  simp only [List.getElem?_map, stood, List.getElem?_range bound, Option.map_some,
    Option.some.injEq] at found
  exact ⟨former, found.symm, same⟩

theorem reorder_eq {mode : StructureMode} {listing : Listing} {g : G}
    (kept : (listing.reorder mode g).1.2.isChange = false) :
    (listing.reorder mode g).1.1 = listing := by
  rcases reorder_cases mode listing g with ⟨-, same, -⟩ | ⟨-, arranged⟩
  · exact same
  · rw [arranged] at kept
    contradiction

/-- Every reordering rearranges, also one that leaves the order as it was. -/
theorem rearranged_reorder (mode : StructureMode) (listing : Listing) (g : G) :
    Rearranged (listing.reorder mode g).1.2.origin listing.sections
      (listing.reorder mode g).1.1.sections := by
  rcases reorder_cases mode listing g with ⟨-, same, kept⟩ | ⟨-, arranged⟩
  · rw [same, OrderOutcome.origin_of_isChange_eq_false kept]
    exact .refl listing.sections
  · rw [arranged]
    exact listing.rearranged_arrange (drawOrder_perm mode listing.movable g)

theorem origin_reorder_eq_zero_iff (mode : StructureMode) (listing : Listing) (g : G)
    (place : Nat) : (listing.reorder mode g).1.2.origin place = 0 ↔ place = 0 := by
  rcases reorder_cases mode listing g with ⟨-, -, kept⟩ | ⟨-, arranged⟩
  · rw [OrderOutcome.origin_of_isChange_eq_false kept, id]
  · rw [arranged]
    have fixed := listing.zero_not_mem_movable
    have drawn := drawOrder_perm mode listing.movable g
    exact source_eq_zero_iff fixed (drawn.mem_iff.not.mpr fixed) place

end Listing

end AsmLayout
