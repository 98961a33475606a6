import AsmLayout.Listing.Order
import Mathlib.Data.List.Forall2

/-! # What draws leave of a list

A shuffled list holds the same elements, whatever the generator says, and so do paired swaps. A
traversal relates each element to its result in any way that a single step does. Numbers are drawn
from inside the range asked for.
-/

namespace AsmLayout

namespace Random

theorem applySwaps_perm {α : Type} (position : Nat) (xs : Array α) (targets : List Nat) :
    (applySwaps position xs targets).toList.Perm xs.toList := by
  induction targets generalizing position xs with
  | nil => exact .refl _
  | cons target targets ih =>
      have swapped : (xs.swapIfInBounds position target).toList.Perm xs.toList := by
        rw [Array.swapIfInBounds_def]
        split_ifs with first second
        · exact (Array.swap_perm first second).toList
        · exact .refl _
        · exact .refl _
      exact (ih (position + 1) _).trans swapped

variable {G : Type} [Generator G]

theorem shuffle_perm {α : Type} (xs : List α) (g : G) : (shuffle xs g).1.Perm xs :=
  applySwaps_perm 0 xs.toArray (swapTargets xs.length g).1

omit [Generator G] in
theorem traverse_forall₂ {α β : Type} {R : α → β → Prop} {step : α → G → β × G}
    (related : ∀ x g, R x (step x g).1) (xs : List α) (g : G) :
    List.Forall₂ R xs (traverse step xs g).1 := by
  induction xs generalizing g with
  | nil => exact .nil
  | cons x xs ih => exact .cons (related x g) (ih (step x g).2)

omit [Generator G] in
theorem traverse_eq_map {α β : Type} {f : α → β} {step : α → G → β × G}
    (fixed : ∀ x g, (step x g).1 = f x) (xs : List α) (g : G) : (traverse step xs g).1 = xs.map f := by
  induction xs generalizing g with
  | nil => rfl
  | cons x xs ih =>
      rw [traverse]
      dsimp only
      rw [fixed, ih, List.map_cons]

omit [Generator G] in
theorem traverse_filter {α β : Type} {p : α → Bool} {step : α → G → β × G}
    (still : ∀ x, p x = false → ∀ g, (step x g).2 = g) (xs : List α) (g : G) :
    traverse step (xs.filter p) g =
      (((xs.zip (traverse step xs g).1).filter (p ·.1)).map (·.2), (traverse step xs g).2) := by
  induction xs generalizing g with
  | nil => rfl
  | cons x xs ih =>
      rw [List.filter_cons, traverse]
      dsimp only
      rw [List.zip_cons_cons, List.filter_cons]
      dsimp only
      cases kept : p x with
      | true =>
          rw [if_pos rfl, if_pos rfl, traverse]
          dsimp only
          rw [ih]
          rfl
      | false =>
          rw [if_neg (by simp), if_neg (by simp), still x kept, ih]

omit [Generator G] in
theorem traverse_related {α α' β β' : Type} {R : α → α' → Prop} {S : β → β' → Prop}
    {step : α → G → β × G} {step' : α' → G → β' × G}
    (related : ∀ {x x'} g, R x x' → S (step x g).1 (step' x' g).1 ∧ (step' x' g).2 = (step x g).2)
    {xs : List α} {xs' : List α'} (each : List.Forall₂ R xs xs') (g : G) :
    List.Forall₂ S (traverse step xs g).1 (traverse step' xs' g).1 ∧
      (traverse step' xs' g).2 = (traverse step xs g).2 := by
  induction each generalizing g with
  | nil => exact ⟨.nil, rfl⟩
  | @cons x x' xs xs' first _ ih =>
      obtain ⟨own, drawn⟩ := related g first
      obtain ⟨later, after⟩ := ih (step x g).2
      rw [traverse, traverse]
      dsimp only
      rw [drawn]
      exact ⟨.cons own later, after⟩

theorem applySwaps_map {α β : Type} (f : α → β) (position : Nat) (xs : Array α)
    (targets : List Nat) :
    applySwaps position (xs.map f) targets = (applySwaps position xs targets).map f := by
  induction targets generalizing position xs with
  | nil => rfl
  | cons target targets ih =>
      have swapped : (xs.map f).swapIfInBounds position target =
          (xs.swapIfInBounds position target).map f := by
        simp only [Array.swapIfInBounds_def, Array.size_map]
        split_ifs with first second
        · apply Array.ext
          · simp
          · intro i _ _
            simp only [Array.getElem_swap, Array.getElem_map]
            split_ifs <;> rfl
        · rfl
        · rfl
      rw [applySwaps, swapped, ih, applySwaps]

/-- What is drawn depends on the length alone, so images are shuffled as the list is. -/
theorem shuffle_map {α β : Type} (f : α → β) (xs : List α) (g : G) :
    shuffle (xs.map f) g = ((shuffle xs g).1.map f, (shuffle xs g).2) := by
  have swapped : (applySwaps 0 (xs.map f).toArray (swapTargets xs.length g).1).toList =
      (applySwaps 0 xs.toArray (swapTargets xs.length g).1).toList.map f := by
    rw [← List.map_toArray, applySwaps_map, Array.toList_map]
  rw [shuffle, List.length_map, shuffle]
  dsimp only
  rw [swapped]

theorem shuffle_of_length_lt_two {α : Type} {xs : List α} (few : xs.length < 2) (g : G) :
    shuffle xs g = (xs, g) := by
  rw [shuffle, swapTargets, if_pos (Nat.le_of_lt_succ few)]
  rfl

theorem shuffle_related {α β : Type} {R : α → β → Prop} {xs : List α} {ys : List β}
    (each : List.Forall₂ R xs ys) (g : G) :
    List.Forall₂ R (shuffle xs g).1 (shuffle ys g).1 ∧ (shuffle ys g).2 = (shuffle xs g).2 := by
  obtain ⟨length, pairs⟩ := List.forall₂_iff_zip.mp each
  have first := shuffle_map Prod.fst (xs.zip ys) g
  have second := shuffle_map Prod.snd (xs.zip ys) g
  rw [List.map_fst_zip (Nat.le_of_eq length)] at first
  rw [List.map_snd_zip (Nat.le_of_eq length.symm)] at second
  rw [first, second, List.forall₂_map_left_iff, List.forall₂_map_right_iff, List.forall₂_same]
  refine ⟨?_, rfl⟩
  intro pair member
  exact pairs ((shuffle_perm (xs.zip ys) g).mem_iff.mp member)

theorem scaled_high_lt {size range word : Nat} (drawn : word < size) (positive : 0 < range) :
    word * range / size < range ∧
      (size - range < word * range % size → word * range / size + 1 < range) := by
  have split := Nat.div_add_mod (word * range) size
  have below : word * range < size * range := Nat.mul_lt_mul_of_pos_right drawn positive
  have high : word * range / size < range := Nat.div_lt_of_lt_mul below
  refine ⟨high, fun carries => ?_⟩
  -- At the last number of the range the low part is too small for a carry to be looked for.
  by_contra exhausted
  have last : range = word * range / size + 1 := by omega
  have most : word * range + range ≤ size * range := by
    rw [← Nat.succ_mul]
    exact Nat.mul_le_mul_right range drawn
  have top : size * range = size * (word * range / size) + size := by
    conv_lhs => rw [last]
    rw [Nat.mul_succ]
  omega

omit [Generator G] in
theorem scaled_lt {size range : Nat} {draw : G → Nat × G} (words : ∀ g, (draw g).1 < size)
    (positive : 0 < range) (g : G) : (scaled size draw range g).1 < range := by
  obtain ⟨high, carry⟩ := scaled_high_lt (words g) positive
  unfold scaled
  dsimp only
  split
  · rename_i carries
    split
    · exact carry carries
    · exact high
  · exact high

theorem inInterval_lt {range : Interval} (filled : range.isEmpty = false) (g : G) :
    range.low ≤ (inInterval range g).1 ∧ (inInterval range g).1 < range.high := by
  have wide : range.low < range.high := by simpa [Interval.isEmpty] using filled
  have offset : (below64 (range.high - range.low) g).1 < range.high - range.low :=
    scaled_lt (fun g => (Generator.next64 g).1.toNat_lt) (by omega) g
  unfold inInterval
  dsimp only
  omega

theorem inInterval_single (n : Nat) (g : G) : (inInterval ⟨n, n + 1⟩ g).1 = n := by
  have filled : (⟨n, n + 1⟩ : Interval).isEmpty = false := by simp [Interval.isEmpty]
  obtain ⟨low, high⟩ := inInterval_lt filled g
  exact Nat.le_antisymm (Nat.le_of_lt_succ high) low

theorem inInterval_zero_lt {bound : Nat} (positive : 0 < bound) (g : G) :
    (inInterval ⟨0, bound⟩ g).1 < bound := by
  have filled : (⟨0, bound⟩ : Interval).isEmpty = false := by
    simpa [Interval.isEmpty] using Nat.ne_of_gt positive
  exact (inInterval_lt filled g).2

end Random

namespace Listing

variable {G : Type} [Random.Generator G]

/-- Each pair of a list is kept or swapped, and an odd last element stays. -/
inductive PairsSwapped {α : Type} : List α → List α → Prop where
  | nil : PairsSwapped [] []
  | single (x : α) : PairsSwapped [x] [x]
  | keep (x y : α) {xs ys : List α} : PairsSwapped xs ys → PairsSwapped (x :: y :: xs) (x :: y :: ys)
  | swap (x y : α) {xs ys : List α} : PairsSwapped xs ys → PairsSwapped (x :: y :: xs) (y :: x :: ys)

theorem PairsSwapped.perm {α : Type} {xs ys : List α} (swapped : PairsSwapped xs ys) :
    ys.Perm xs := by
  induction swapped with
  | nil => exact .refl _
  | single x => exact .refl _
  | keep x y _ ih => exact (ih.cons y).cons x
  | swap x y _ ih => exact (List.Perm.swap x y _).trans ((ih.cons y).cons x)

theorem pairsSwapped_swapPairs {α : Type} (xs : List α) (g : G) :
    PairsSwapped xs (swapPairs xs g).1 := by
  fun_induction swapPairs xs g with
  | case1 x y rest g g' rest' g'' drawn tossed ih =>
      rw [drawn] at ih
      exact .swap x y ih
  | case2 x y rest g swap g' tossed rest' g'' drawn stays ih =>
      rw [drawn] at ih
      exact .keep x y ih
  | case3 xs g short =>
      cases xs with
      | nil => exact .nil
      | cons x rest =>
          cases rest with
          | nil => exact .single x
          | cons y rest => exact absurd rfl (short x y rest)

theorem drawOrder_perm (mode : StructureMode) (positions : List Nat) (g : G) :
    (drawOrder mode positions g).1.Perm positions := by
  cases mode with
  | shuffle => exact Random.shuffle_perm positions g
  | smallChanges => exact (pairsSwapped_swapPairs positions g).perm

theorem drawOrder_of_length_lt_two {mode : StructureMode} {positions : List Nat} {g : G}
    (few : positions.length < 2) : (drawOrder mode positions g).1 = positions := by
  cases mode with
  | shuffle => rw [drawOrder, Random.shuffle_of_length_lt_two few]
  | smallChanges =>
      match positions, few with
      | [], _ => rfl
      | [_], _ => rfl

end Listing

end AsmLayout
