import AsmLayout.Json.Number

/-! # Laws of numbers in JSON

A natural number below `naturalLimit` is read back from its decimal digits, wherever they stand in
front of a character that cannot go on with a number.
-/

namespace AsmLayout

namespace Json

/-- In front of this text a number is at its end. -/
def EndsNumber (cs : List Char) : Prop :=
  ∀ c ∈ cs.head?, isDigit c = false ∧ (c == '.') = false ∧ isExponentLetter c = false

theorem isDigit_eq (c : Char) : isDigit c = c.isDigit := by
  simp only [isDigit, Char.isDigit, ge_iff_le, Char.le_def, Char.reduceVal]

theorem isDigit_of_mem_toDigits {c : Char} {n : Nat} (member : c ∈ Nat.toDigits 10 n) :
    isDigit c = true := by
  rw [isDigit_eq]
  exact Nat.isDigit_of_mem_toDigits (by decide) (by decide) member

theorem toDigits_eq_zero_of_head? {n : Nat} (zero : (Nat.toDigits 10 n).head? = some '0') :
    Nat.toDigits 10 n = ['0'] := by
  suffices n = 0 by rw [this, Nat.toDigits_zero]
  induction n using Nat.base_induction 10 (by decide) with
  | single m small =>
      rw [Nat.toDigits_of_lt_base small, List.head?_cons, Option.some.injEq] at zero
      exact Nat.digitChar_eq_zero.mp zero
  | digit m k smallDigit positive ih =>
      rw [← Nat.toDigits_append_toDigits (by decide) positive smallDigit, List.head?_append,
        List.head?_eq_some_head Nat.toDigits_ne_nil, Option.some_or] at zero
      have first : (Nat.toDigits 10 m).head? = some '0' := by
        rw [List.head?_eq_some_head Nat.toDigits_ne_nil, zero]
      exact absurd (ih first) (Nat.ne_of_gt positive)

theorem digits_append {ds rest : List Char} (nonempty : ds ≠ [])
    (all : ∀ d ∈ ds, isDigit d = true) (ends : EndsNumber rest) :
    digits (ds ++ rest) = .ok (ds, rest) := by
  have stop : rest.takeWhile isDigit = [] ∧ rest.dropWhile isDigit = rest := by
    cases rest with
    | nil => exact ⟨rfl, rfl⟩
    | cons c cs =>
        have other : ¬ isDigit c = true := by simp [(ends c rfl).1]
        exact ⟨List.takeWhile_cons_of_neg other, List.dropWhile_cons_of_neg other⟩
  cases ds with
  | nil => exact absurd rfl nonempty
  | cons d ds =>
      have others : ∀ e ∈ ds, isDigit e = true := fun e member => all e (.tail _ member)
      rw [List.cons_append, digits, if_pos (all d (.head _)), List.takeWhile_append_of_pos others,
        List.dropWhile_append_of_pos others, stop.1, stop.2, List.append_nil]

theorem wholeDigits_toDigits (n : Nat) {rest : List Char} (ends : EndsNumber rest) :
    wholeDigits (Nat.toDigits 10 n ++ rest) = .ok (Nat.toDigits 10 n, rest) := by
  rw [wholeDigits, digits_append Nat.toDigits_ne_nil (fun _ => isDigit_of_mem_toDigits) ends]
  split
  next second others rest' read =>
    have spelled : Nat.toDigits 10 n = '0' :: second :: others :=
      (Prod.mk.inj (Except.ok.inj read)).1
    have single := toDigits_eq_zero_of_head? (by rw [spelled, List.head?_cons])
    rw [spelled] at single
    exact absurd (List.cons.inj single).2 (List.cons_ne_nil _ _)
  next => rfl

theorem accumulate_eq_ofDigitChars {ds : List Char} {significand : Nat}
    (fits : Nat.ofDigitChars 10 ds significand < naturalLimit) :
    accumulate significand ds = (Nat.ofDigitChars 10 ds significand, 0) := by
  induction ds generalizing significand with
  | nil => rw [accumulate, Nat.ofDigitChars_nil]
  | cons d ds ih =>
      have next : significand * 10 + digitValue d = 10 * significand + (d.toNat - '0'.toNat) := by
        rw [digitValue, Nat.mul_comm]
      rw [Nat.ofDigitChars_cons, ← next] at fits ⊢
      have small : significand * 10 + digitValue d < naturalLimit := by
        rw [Nat.ofDigitChars_eq_ofDigitChars_zero] at fits
        have grows := Nat.le_mul_of_pos_left (significand * 10 + digitValue d)
          (Nat.pow_pos (n := ds.length) (show 0 < 10 by decide))
        omega
      rw [accumulate, if_pos small, ih fits]

theorem number_toString {n : Nat} (fits : n < naturalLimit) {rest : List Char}
    (ends : EndsNumber rest) :
    number ((toString n).toList ++ rest) = .ok (.natural n, rest) := by
  have unsigned : number (Nat.toDigits 10 n ++ rest) = magnitude false (Nat.toDigits 10 n ++ rest) := by
    unfold number
    split
    next cs front =>
      have member : '-' ∈ Nat.toDigits 10 n := by
        cases spelled : Nat.toDigits 10 n with
        | nil => exact absurd spelled Nat.toDigits_ne_nil
        | cons d ds =>
            rw [spelled, List.cons_append] at front
            rw [(List.cons.inj front).1]
            exact List.mem_cons_self ..
      exact absurd (isDigit_of_mem_toDigits member) (by decide)
    next => rfl
  have read : accumulate 0 (Nat.toDigits 10 n) = (n, 0) := by
    have value := Nat.ofDigitChars_ten_toDigits (n := n)
    rw [accumulate_eq_ofDigitChars (by rw [value]; exact fits), value]
  rw [Nat.toString_eq_ofList_toDigits, String.toList_ofList, unsigned, magnitude,
    wholeDigits_toDigits n ends]
  cases rest with
  | nil => simp [read]
  | cons c cs =>
      obtain ⟨-, noPoint, noExponent⟩ := ends c rfl
      simp [read, noPoint, noExponent]

end Json

end AsmLayout
