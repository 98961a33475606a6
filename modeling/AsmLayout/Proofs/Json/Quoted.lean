import AsmLayout.Json.Quoted

/-! # Laws of strings in JSON

A string is read back from what is written of it, character by character: a quote, a backslash or a
control character from its escape, every other character from itself.
-/

namespace AsmLayout

namespace Json

theorem fourDigits_cons (a b c d : Char) (cs : List Char) :
    fourDigits (a :: b :: c :: d :: cs) = fourDigits [a, b, c, d] :=
  rfl

theorem fourDigits_hexDigit {n : Nat} (control : n < 0x20) :
    fourDigits ['0', '0', hexDigit (n / 16), hexDigit (n % 16)] = .ok n := by
  have table : ∀ n < 0x20,
      (fourDigits ['0', '0', hexDigit (n / 16), hexDigit (n % 16)]).toOption = some n := by
    decide
  have found := table n control
  cases read : fourDigits ['0', '0', hexDigit (n / 16), hexDigit (n % 16)] with
  | error problem => rw [read] at found; cases found
  | ok unit => rw [read] at found; exact congrArg Except.ok (Option.some.inj found)

theorem escape_control (reading : Reading) {c : Char} (control : c.toNat < 0x20) (cs : List Char) :
    escape reading ('u' :: '0' :: '0' :: hexDigit (c.toNat / 16) :: hexDigit (c.toNat % 16) :: cs) =
      .ok (c, 5) := by
  have unit : fourDigits ('0' :: '0' :: hexDigit (c.toNat / 16) :: hexDigit (c.toNat % 16) :: cs) =
      .ok c.toNat := by
    rw [fourDigits_cons, fourDigits_hexDigit control]
  have noLow : isLowSurrogate c.toNat = false := by
    simp only [isLowSurrogate, Bool.and_eq_false_iff, decide_eq_false_iff_not]
    omega
  have noHigh : isHighSurrogate c.toNat = false := by
    simp only [isHighSurrogate, Bool.and_eq_false_iff, decide_eq_false_iff_not]
    omega
  simp [escape, unit, noLow, noHigh, Char.ofNat_toNat]

theorem quoted_of_escape {reading : Reading} {front : List Char} {c : Char} {cs : List Char}
    (read : escape reading (front ++ cs) = .ok (c, front.length)) :
    quoted reading ('\\' :: (front ++ cs)) =
      (quoted reading cs).map fun (text, rest) => (c :: text, rest) := by
  rw [quoted, if_neg (by decide), if_pos rfl, read]
  simp only [List.drop_left]
  cases quoted reading cs <;> rfl

theorem quoted_writeChar (reading : Reading) (c : Char) (cs : List Char) :
    quoted reading (writeChar c ++ cs) =
      (quoted reading cs).map fun (text, rest) => (c :: text, rest) := by
  unfold writeChar
  split
  case h_8 noQuote noBackslash _ _ _ _ _ =>
    split
    next control => exact quoted_of_escape (escape_control reading control cs)
    next printed =>
      rw [List.cons_append, List.nil_append, quoted, if_neg noQuote, if_neg noBackslash,
        if_neg printed]
      cases quoted reading cs <;> rfl
  all_goals exact quoted_of_escape rfl

/-- A string is read back from behind its opening quote. -/
theorem quoted_flatMap_writeChar (reading : Reading) (text rest : List Char) :
    quoted reading (text.flatMap writeChar ++ '"' :: rest) = .ok (text, rest) := by
  induction text with
  | nil => rw [List.flatMap_nil, List.nil_append, quoted, if_pos rfl]
  | cons c text ih => rw [List.flatMap_cons, List.append_assoc, quoted_writeChar, ih]; rfl

end Json

end AsmLayout
