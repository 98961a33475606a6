import AsmLayout.Runs
import Mathlib.Data.List.TakeWhile

/-! # Laws of cutting a list into runs

The runs of a list put together give the list again, and they are the only cut of it: no part is
empty, an element that starts a run stands only at the front of a part, and every part but the first
has one there.
-/

namespace AsmLayout

variable {α : Type} {starts : α → Bool}

/-- Parts of a list that are cut in front of the elements that start, and only there. -/
structure IsCut (starts : α → Bool) (parts : List (List α)) : Prop where
  nonempty : ∀ part ∈ parts, part ≠ []
  inside : ∀ part ∈ parts, ∀ x ∈ part.tail, starts x = false
  opened : ∀ part ∈ parts.tail, part.head?.any starts = true

theorem flatten_runs (starts : α → Bool) (xs : List α) : (runs starts xs).flatten = xs := by
  fun_induction runs starts xs with
  | case1 => rfl
  | case2 x xs ih => rw [List.flatten_cons, ih, List.cons_append, List.takeWhile_append_dropWhile]

theorem isCut_runs (starts : α → Bool) (xs : List α) : IsCut starts (runs starts xs) := by
  fun_induction runs starts xs with
  | case1 => exact ⟨by simp, by simp, by simp⟩
  | case2 x xs ih =>
      refine ⟨?_, ?_, ?_⟩
      · intro part member
        rcases List.mem_cons.mp member with rfl | later
        · exact List.cons_ne_nil _ _
        · exact ih.nonempty part later
      · intro part member y inner
        rcases List.mem_cons.mp member with rfl | later
        · simpa using List.mem_takeWhile_imp inner
        · exact ih.inside part later y inner
      · rw [List.tail_cons]
        have front := List.head?_dropWhile_not (!starts ·) xs
        cases rest : xs.dropWhile (!starts ·) with
        | nil => simp [runs]
        | cons y ys =>
            simp only [rest, List.head?_cons, Bool.not_eq_eq_eq_not, Bool.not_false] at front
            rw [rest, runs] at ih
            intro part member
            rw [runs] at member
            rcases List.mem_cons.mp member with rfl | later
            · simpa using front
            · exact ih.opened part later

theorem runs_flatten {parts : List (List α)} (cut : IsCut starts parts) :
    runs starts parts.flatten = parts := by
  induction parts with
  | nil => rw [List.flatten_nil, runs]
  | cons part rest ih =>
      have later : IsCut starts rest :=
        ⟨fun part member => cut.nonempty part (List.mem_cons_of_mem _ member),
          fun part member => cut.inside part (List.mem_cons_of_mem _ member),
          fun part member => cut.opened part (List.mem_of_mem_tail member)⟩
      cases part with
      | nil => exact absurd rfl (cut.nonempty [] (List.mem_cons_self ..))
      | cons x inner =>
          have unstarted : ∀ y ∈ inner, (!starts y) = true := by
            intro y member
            rw [cut.inside (x :: inner) (List.mem_cons_self ..) y member]
            rfl
          have stops : rest.flatten.takeWhile (!starts ·) = [] ∧
              rest.flatten.dropWhile (!starts ·) = rest.flatten := by
            cases rest with
            | nil => exact ⟨rfl, rfl⟩
            | cons next others =>
                have front := cut.opened next (List.mem_cons_self ..)
                cases next with
                | nil => simp at front
                | cons y ys =>
                    simp only [List.head?_cons, Option.any_some] at front
                    simp [front]
          rw [List.flatten_cons, List.cons_append, runs, List.takeWhile_append_of_pos unstarted,
            List.dropWhile_append_of_pos unstarted, stops.1, stops.2, ih later, List.append_nil]

theorem runs_map {β : Type} (starts : β → Bool) (f : α → β) (xs : List α) :
    runs starts (xs.map f) = (runs (fun x => starts (f x)) xs).map (·.map f) := by
  fun_induction runs (fun x => starts (f x)) xs with
  | case1 => rw [List.map_nil, runs, List.map_nil]
  | case2 x xs ih =>
      rw [List.map_cons, runs, List.takeWhile_map, List.dropWhile_map, List.map_cons, List.map_cons,
        ← ih]
      rfl

end AsmLayout
