import AsmLayout.Proofs.Words
import AsmLayout.Text.Lines

/-! # Laws of lines

A text that is put together from lines and closed by a line feed has these lines and no other, as
long as none of them has a line feed of its own. What is left of a line without the blanks at its end
stands on one line again.
-/

namespace AsmLayout

namespace Text

theorem lines_append_newline {line : List Char} (unbroken : '\n' ∉ line) (rest : List Char) :
    lines (line ++ '\n' :: rest) = line :: lines rest := by
  induction line with
  | nil => rw [List.nil_append, lines, if_pos rfl]
  | cons c cs ih =>
      obtain ⟨other, later⟩ := not_or.mp (List.mem_cons.not.mp unbroken)
      rw [List.cons_append, lines, if_neg (Ne.symm other), ih later]

theorem unlines_singleton (line : List Char) : unlines [line] = line :=
  List.intercalate_singleton

theorem unlines_cons (line : List Char) {rest : List (List Char)} (more : rest ≠ []) :
    unlines (line :: rest) = line ++ '\n' :: unlines rest := by
  rw [unlines, List.intercalate_cons_of_ne_nil more, List.append_assoc, List.singleton_append, unlines]

theorem lines_unlines {ls : List (List Char)} (nonempty : ls ≠ [])
    (unbroken : ∀ line ∈ ls, '\n' ∉ line) : lines (unlines ls ++ ['\n']) = ls := by
  induction ls with
  | nil => exact absurd rfl nonempty
  | cons line rest ih =>
      have single : '\n' ∉ line := unbroken line (List.mem_cons_self ..)
      cases rest with
      | nil => rw [unlines_singleton, lines_append_newline single, lines]
      | cons next others =>
          have later : lines (unlines (next :: others) ++ ['\n']) = next :: others :=
            ih (List.cons_ne_nil _ _) fun other member => unbroken other (List.mem_cons_of_mem _ member)
          rw [unlines_cons line (List.cons_ne_nil _ _), List.append_assoc, List.cons_append,
            lines_append_newline single, later]

theorem unlines_append {xs ys : List (List Char)} (left : xs ≠ []) (right : ys ≠ []) :
    unlines (xs ++ ys) = unlines xs ++ '\n' :: unlines ys := by
  induction xs with
  | nil => exact absurd rfl left
  | cons x rest ih =>
      cases rest with
      | nil => rw [List.singleton_append, unlines_cons x right, unlines_singleton]
      | cons next others =>
          rw [List.cons_append, unlines_cons x (by simp), ih (List.cons_ne_nil _ _),
            unlines_cons x (List.cons_ne_nil _ _), List.append_assoc, List.cons_append]

theorem newline_not_mem_of_mem_lines {cs line : List Char} (listed : line ∈ lines cs) :
    '\n' ∉ line := by
  induction cs generalizing line with
  | nil => contradiction
  | cons c cs ih =>
      rw [lines] at listed
      split at listed
      · rcases List.mem_cons.mp listed with rfl | later
        · exact List.not_mem_nil
        · exact ih later
      · rename_i other
        split at listed
        · rw [List.mem_singleton.mp listed, List.mem_singleton]
          exact Ne.symm other
        · rename_i first rest split
          rcases List.mem_cons.mp listed with rfl | later
          · rw [List.mem_cons, not_or]
            exact ⟨Ne.symm other, ih (split ▸ List.mem_cons_self ..)⟩
          · exact ih (split ▸ List.mem_cons_of_mem _ later)

/-- A text that stands on one line, without blanks at its end. -/
structure OneLine (cs : List Char) : Prop where
  unbroken : '\n' ∉ cs
  trimmed : trimEnd cs = cs

theorem oneLine_trimEnd {cs line : List Char} (listed : line ∈ lines cs) :
    OneLine (trimEnd line) where
  unbroken member :=
    newline_not_mem_of_mem_lines listed ((List.rdropWhile_prefix isBlank line).subset member)
  trimmed := List.rdropWhile_idempotent isBlank line

theorem OneLine.of_getLast? {cs : List Char} {last : Char} (unbroken : '\n' ∉ cs)
    (ends : cs.getLast? = some last) (solid : isBlank last = false) : OneLine cs where
  unbroken := unbroken
  trimmed := by
    apply List.rdropWhile_eq_self_iff.mpr
    intro nonempty
    rw [List.getLast?_eq_some_getLast nonempty, Option.some.injEq] at ends
    rw [ends, solid]
    decide

theorem OneLine.of_digits {front back : List Char} {last : Char} (before : '\n' ∉ front)
    (after : '\n' ∉ back) (ends : back.getLast? = some last) (solid : isBlank last = false)
    (n : Nat) : OneLine (front ++ ((toString n).toList ++ back)) := by
  have digits : '\n' ∉ (toString n).toList := by
    rw [Nat.toString_eq_ofList_toDigits, String.toList_ofList]
    intro member
    exact absurd (Nat.isDigit_of_mem_toDigits (by decide) (by decide) member) (by decide)
  refine .of_getLast? ?_ ?_ solid
  · simp only [List.mem_append, not_or]
    exact ⟨before, digits, after⟩
  · rw [← List.append_assoc, List.getLast?_append, ends, Option.some_or]

end Text

end AsmLayout
