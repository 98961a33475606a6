import AsmLayout.Text.Blank
import Mathlib.Data.List.DropRight

/-! # Laws of words

A text has no words exactly when it is blank, its blanks on either side do not matter, and its first
word is what stands in front of the first blank behind them.
-/

namespace AsmLayout

namespace Text

theorem isBlank_of_isAlpha {c : Char} (letter : c.isAlpha = true) : isBlank c = false := by
  have range : (65 ≤ c.toNat ∧ c.toNat ≤ 90) ∨ (97 ≤ c.toNat ∧ c.toNat ≤ 122) := by
    rcases Bool.or_eq_true_iff.mp letter with upper | lower
    · exact .inl (of_decide_eq_true upper)
    · have bounds := Bool.and_eq_true_iff.mp lower
      exact .inr ⟨of_decide_eq_true bounds.1, of_decide_eq_true bounds.2⟩
  simp only [isBlank, blankRanges, List.any_cons, List.any_nil, Bool.or_false, Bool.or_eq_false_iff,
    Bool.and_eq_false_iff, decide_eq_false_iff_not]
  omega

theorem words_eq_nil_iff (cs : List Char) : words cs = [] ↔ cs.all isBlank = true := by
  fun_induction words cs with
  | case1 => simp
  | case2 c cs blank ih => simp [ih, blank]
  | case3 c cs solid ih => simp [solid]

theorem nil_not_mem_words (cs : List Char) : [] ∉ words cs := by
  fun_induction words cs with
  | case1 => exact List.not_mem_nil
  | case2 c cs blank ih => exact ih
  | case3 c cs solid ih => simpa using ih

theorem words_trimStart (cs : List Char) : words (trimStart cs) = words cs := by
  induction cs with
  | nil => rfl
  | cons c cs ih =>
      cases blank : isBlank c with
      | true =>
          rw [words, if_pos blank, trimStart, List.dropWhile_cons_of_pos blank, ← ih, trimStart]
      | false => rw [trimStart, List.dropWhile_cons_of_neg (by simp [blank])]

theorem words_append_space {word : List Char} (rest : List Char) (nonempty : word ≠ [])
    (solid : ∀ c ∈ word, isBlank c = false) : words (word ++ ' ' :: rest) = word :: words rest := by
  cases word with
  | nil => exact absurd rfl nonempty
  | cons c cs =>
      have first : isBlank c = false := solid c (List.mem_cons_self ..)
      have others : ∀ d ∈ cs, (!isBlank d) = true := by
        intro d member
        rw [solid d (List.mem_cons_of_mem _ member)]
        rfl
      have space : isBlank ' ' = true := by decide
      rw [List.cons_append, words, if_neg (by simp [first]), List.takeWhile_append_of_pos others,
        List.dropWhile_append_of_pos others, List.takeWhile_cons_of_neg (by simp [space]),
        List.dropWhile_cons_of_neg (by simp [space]), List.append_nil, words, if_pos space]

theorem takeWhile_trimEnd (cs : List Char) :
    (trimEnd cs).takeWhile (!isBlank ·) = cs.takeWhile (!isBlank ·) := by
  have whole : trimEnd cs ++ cs.rtakeWhile isBlank = cs := List.rdropWhile_append_rtakeWhile ..
  have blank : (cs.rtakeWhile isBlank).takeWhile (!isBlank ·) = [] := by
    cases tail : cs.rtakeWhile isBlank with
    | nil => rfl
    | cons c rest =>
        have := List.mem_rtakeWhile_imp (tail ▸ List.mem_cons_self (a := c) (l := rest))
        rw [List.takeWhile_cons_of_neg (by simp [this])]
  conv_rhs => rw [← whole, List.takeWhile_append, blank, List.append_nil]
  split
  · rename_i unbroken
    exact (List.takeWhile_prefix _).eq_of_length unbroken
  · rfl

theorem head?_words (cs : List Char) (nonblank : cs.all isBlank = false) :
    (words cs).head? = some ((trim cs).takeWhile (!isBlank ·)) := by
  rw [trim, takeWhile_trimEnd, ← words_trimStart]
  have front := List.head?_dropWhile_not isBlank cs
  cases kept : trimStart cs with
  | nil =>
      have : cs.all isBlank = true := by rw [← words_eq_nil_iff, ← words_trimStart, kept, words]
      rw [this] at nonblank
      contradiction
  | cons c rest =>
      rw [trimStart] at kept
      rw [kept] at front
      simp only [List.head?_cons] at front
      rw [words, if_neg (by simp [front]), List.takeWhile_cons_of_pos (by simp [front]),
        List.head?_cons]

theorem words_of_normalize_eq {cs word : List Char} (normal : normalize cs = word)
    (nonempty : word ≠ []) (solid : word.any isBlank = false) : words cs = [word] := by
  subst normal
  rw [normalize] at nonempty solid ⊢
  cases spelled : words cs with
  | nil => simp [spelled, List.intercalate] at nonempty
  | cons first others =>
      cases others with
      | nil => simp [List.intercalate, List.intersperse]
      | cons second rest =>
          have space : ' ' ∈ [' '].intercalate (words cs) := by
            simp [spelled, List.intercalate]
          exact absurd (by decide) (List.any_eq_false.mp solid ' ' space)

theorem head?_trimStart {cs word : List Char} {c : Char} {rest : List (List Char)}
    (spelled : words cs = (c :: word) :: rest) : (trimStart cs).head? = some c := by
  rw [← words_trimStart] at spelled
  have front := List.head?_dropWhile_not isBlank cs
  rw [trimStart] at spelled ⊢
  cases kept : cs.dropWhile isBlank with
  | nil => simp [kept, words] at spelled
  | cons d ds =>
      simp only [kept, List.head?_cons] at front
      rw [kept, words, if_neg (by simp [front])] at spelled
      injection spelled with same _
      injection same with symbol _
      rw [List.head?_cons, symbol]

theorem head?_normalize (cs : List Char) : (normalize cs).head? = (trimStart cs).head? := by
  rw [normalize]
  cases spelled : words cs with
  | nil =>
      have blank : cs.all isBlank = true := (words_eq_nil_iff cs).mp spelled
      rw [trimStart, List.dropWhile_eq_nil_iff.mpr (List.all_eq_true.mp blank), List.intercalate_nil]
  | cons word rest =>
      cases word with
      | nil => exact absurd (spelled ▸ List.mem_cons_self ..) (nil_not_mem_words cs)
      | cons c word =>
          rw [head?_trimStart spelled]
          cases rest with
          | nil => rw [List.intercalate_singleton, List.head?_cons]
          | cons next others => rw [List.intercalate_cons_cons]; rfl

theorem solid_of_mem_words {cs word : List Char} (listed : word ∈ words cs) :
    ∀ c ∈ word, isBlank c = false := by
  fun_induction words cs with
  | case1 => contradiction
  | case2 c cs blank ih => exact ih listed
  | case3 c cs solid ih =>
      rcases List.mem_cons.mp listed with rfl | later
      · intro d member
        rcases List.mem_cons.mp member with rfl | inner
        · exact eq_false_of_ne_true solid
        · simpa using List.mem_takeWhile_imp inner
      · exact ih later

theorem words_of_solid {word : List Char} (nonempty : word ≠ [])
    (solid : ∀ c ∈ word, isBlank c = false) : words word = [word] := by
  cases word with
  | nil => exact absurd rfl nonempty
  | cons c cs =>
      have others : ∀ d ∈ cs, (!isBlank d) = true := by
        intro d member
        rw [solid d (List.mem_cons_of_mem _ member)]
        rfl
      rw [words, if_neg (by simp [solid c (List.mem_cons_self ..)]), List.takeWhile_eq_self_iff.mpr others,
        List.dropWhile_eq_nil_iff.mpr others, words]

theorem words_normalize (cs : List Char) : words (normalize cs) = words cs := by
  have spelled {ws : List (List Char)} (some : [] ∉ ws)
      (solid : ∀ word ∈ ws, ∀ c ∈ word, isBlank c = false) :
      words ([' '].intercalate ws) = ws := by
    induction ws with
    | nil => rw [List.intercalate_nil, words]
    | cons word rest ih =>
        have nonempty : word ≠ [] := fun empty => some (empty ▸ List.mem_cons_self ..)
        have own := solid word (List.mem_cons_self ..)
        have later := ih (fun empty => some (List.mem_cons_of_mem _ empty))
          fun word member => solid word (List.mem_cons_of_mem _ member)
        cases rest with
        | nil => rw [List.intercalate_singleton, words_of_solid nonempty own]
        | cons next others =>
            rw [List.intercalate_cons_cons, List.append_assoc, List.singleton_append,
              words_append_space _ nonempty own, later]
  exact spelled (nil_not_mem_words cs) fun _ listed => solid_of_mem_words listed

theorem words_append_of_blank {back : List Char} (blank : back.all isBlank = true)
    (cs : List Char) : words (cs ++ back) = words cs := by
  have stops : back.takeWhile (!isBlank ·) = [] ∧ back.dropWhile (!isBlank ·) = back := by
    cases back with
    | nil => exact ⟨rfl, rfl⟩
    | cons c rest =>
        obtain ⟨first, -⟩ := Bool.and_eq_true_iff.mp blank
        simp [first]
  fun_induction words cs with
  | case1 => exact (words_eq_nil_iff back).mpr blank
  | case2 c cs space ih => rw [List.cons_append, words, if_pos space, ih]
  | case3 c cs solid ih =>
      have taken : (cs ++ back).takeWhile (!isBlank ·) = cs.takeWhile (!isBlank ·) := by
        rw [List.takeWhile_append, stops.1, List.append_nil]
        split
        · rename_i unbroken
          exact ((List.takeWhile_prefix _).eq_of_length unbroken).symm
        · rfl
      have dropped : (cs ++ back).dropWhile (!isBlank ·) = cs.dropWhile (!isBlank ·) ++ back := by
        rw [List.dropWhile_append, stops.2]
        split
        · rename_i empty
          rw [List.isEmpty_iff.mp empty, List.nil_append]
        · rfl
      rw [List.cons_append, words, if_neg solid, taken, dropped, ih]

theorem words_trimEnd (cs : List Char) : words (trimEnd cs) = words cs := by
  have whole : trimEnd cs ++ cs.rtakeWhile isBlank = cs := List.rdropWhile_append_rtakeWhile ..
  have blank : (cs.rtakeWhile isBlank).all isBlank = true :=
    List.all_eq_true.mpr fun _ member => List.mem_rtakeWhile_imp member
  conv_rhs => rw [← whole, words_append_of_blank blank]

theorem words_trim (cs : List Char) : words (trim cs) = words cs := by
  rw [trim, words_trimEnd, words_trimStart]

theorem words_of_front {cs : List Char} (nonempty : cs ≠ [])
    (front : cs.head?.any isBlank = false) :
    words cs = cs.takeWhile (!isBlank ·) :: words (cs.dropWhile (!isBlank ·)) := by
  cases cs with
  | nil => exact absurd rfl nonempty
  | cons c rest =>
      have solid : isBlank c = false := front
      rw [words, if_neg (by simp [solid]), List.takeWhile_cons_of_pos (by simp [solid]),
        List.dropWhile_cons_of_pos (by simp [solid])]

theorem head?_trimStart_any (cs : List Char) : (trimStart cs).head?.any isBlank = false := by
  have front := List.head?_dropWhile_not isBlank cs
  rw [trimStart]
  cases kept : (cs.dropWhile isBlank).head? with
  | none => rfl
  | some c =>
      rw [kept] at front
      exact front

theorem getLast?_trimEnd_any (cs : List Char) : (trimEnd cs).getLast?.any isBlank = false := by
  rw [trimEnd, List.getLast?_reverse]
  exact head?_trimStart_any cs.reverse

theorem getLast?_any_of_suffix {cs rest : List Char} (behind : rest <:+ cs)
    (last : cs.getLast?.any isBlank = false) : rest.getLast?.any isBlank = false := by
  obtain ⟨front, rfl⟩ := behind
  rw [List.getLast?_append] at last
  cases kept : rest.getLast? with
  | none => rfl
  | some c =>
      rw [kept] at last
      exact last

theorem head?_trim_any (cs : List Char) : (trim cs).head?.any isBlank = false := by
  obtain ⟨back, whole⟩ : trim cs <+: trimStart cs := List.rdropWhile_prefix isBlank _
  have front := head?_trimStart_any cs
  rw [← whole] at front
  cases kept : trim cs with
  | nil => rfl
  | cons c rest =>
      rw [kept] at front
      exact front

theorem trim_ne_nil {cs : List Char} (nonblank : cs.all isBlank = false) : trim cs ≠ [] := by
  intro empty
  rw [← Bool.not_eq_true, ← words_eq_nil_iff, ← words_trim, empty, words] at nonblank
  exact nonblank rfl

end Text

end AsmLayout
