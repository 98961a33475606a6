import AsmLayout.Proofs.Words
import AsmLayout.Statement

/-! # Instructions

Every instruction that an edit inserts or replaces is known by its first word. Such a line is
neither blank nor a label, and its text starts with no directive.
-/

namespace AsmLayout

namespace Line

/-- The first word of an instruction starts with a letter and has no colon. -/
def isInstruction (line : Line) : Bool :=
  line.words.head?.any fun word => word.head?.any Char.isAlpha && !word.contains ':'

theorem words_of_isInstruction {line : Line} (instruction : line.isInstruction = true) :
    ∃ c cs rest, line.words = (c :: cs) :: rest ∧ c.isAlpha = true ∧
      (c :: cs).contains ':' = false := by
  unfold isInstruction at instruction
  cases spelled : line.words with
  | nil => simp [spelled] at instruction
  | cons word rest =>
      cases word with
      | nil => simp [spelled] at instruction
      | cons c cs =>
          simp only [spelled, List.head?_cons, Option.any_some, Bool.and_eq_true,
            Bool.not_eq_eq_eq_not, Bool.not_true] at instruction
          exact ⟨c, cs, rest, rfl, instruction.1, instruction.2⟩

theorem isLabel_of_isInstruction {line : Line} (instruction : line.isInstruction = true) :
    line.isLabel = false := by
  obtain ⟨c, cs, rest, spelled, -, colonless⟩ := words_of_isInstruction instruction
  unfold isLabel
  rw [spelled]
  exact colonless

theorem isBlank_of_isInstruction {line : Line} (instruction : line.isInstruction = true) :
    line.isBlank = false := by
  obtain ⟨c, cs, rest, spelled, -, -⟩ := words_of_isInstruction instruction
  cases blank : line.isBlank with
  | false => rfl
  | true =>
      have : line.words = [] := (Text.words_eq_nil_iff line.chars).mpr blank
      rw [this] at spelled
      contradiction

theorem startsWith_of_isInstruction {line : Line} (instruction : line.isInstruction = true)
    {pattern : String} {first : Char} {others : List Char}
    (spelling : pattern.toList = first :: others) (symbol : first.isAlpha = false) :
    line.startsWith pattern = false := by
  obtain ⟨c, cs, rest, spelled, letter, -⟩ := words_of_isInstruction instruction
  have front : ∃ tail, line.normalized = c :: tail := by
    unfold words at spelled
    rw [normalized, Text.normalize, spelled]
    cases rest with
    | nil => exact ⟨cs, by simp [List.intercalate, List.intersperse]⟩
    | cons word rest => exact ⟨_, by simp [List.intercalate, List.intersperse]; rfl⟩
  obtain ⟨tail, normal⟩ := front
  have differ : (first == c) = false := by
    apply beq_eq_false_iff_ne.mpr
    rintro rfl
    rw [letter] at symbol
    contradiction
  rw [startsWith, normal, spelling, List.isPrefixOf_cons_cons, differ, Bool.false_and]

theorem isInstruction_of_isStatement {line : Line} {word : List Char}
    (statement : line.isStatement = true) (first : line.words.head? = some word)
    (letter : word.head?.any Char.isAlpha = true) : line.isInstruction = true := by
  have unlabelled : line.isLabel = false := by
    simp only [isStatement, Bool.and_eq_true, Bool.not_eq_eq_eq_not, Bool.not_true] at statement
    exact statement.1.1
  have colonless : word.contains ':' = false := by
    unfold isLabel at unlabelled
    cases spelled : line.words with
    | nil => simp [spelled] at first
    | cons other rest =>
        simp only [spelled, List.head?_cons, Option.some.injEq] at first unlabelled
        rw [← first, unlabelled]
  rw [isInstruction, first, Option.any_some, letter, colonless]
  rfl

theorem isStatementWith_numberless {property : Statement → Bool}
    (blind : ∀ statement line, property { statement with line } = property statement) (line : Line)
    (number : Nat) :
    { line with number }.isStatementWith property = line.isStatementWith property := by
  have statement : { line with number }.isStatement = line.isStatement := rfl
  unfold isStatementWith Statement.ofLine
  rw [statement]
  cases line.isStatement with
  | false => rfl
  | true => exact blind ⟨line, _, _⟩ { line with number }

theorem head?_words_of_isStatementWith {line : Line} {property : Statement → Bool}
    (found : line.isStatementWith property = true) :
    ∃ statement, property statement = true ∧ line.words.head? = some statement.mnemonic.toList := by
  unfold isStatementWith Statement.ofLine at found
  cases statement : line.isStatement with
  | false => simp [statement] at found
  | true =>
      simp only [statement, if_true] at found
      have nonblank : line.isBlank = false := by
        simp only [isStatement, Bool.and_eq_true, Bool.not_eq_eq_eq_not, Bool.not_true] at statement
        exact statement.1.2
      refine ⟨_, found, ?_⟩
      rw [String.toList_ofList]
      exact Text.head?_words line.chars nonblank

theorem isStatement_of_isStatementWith {line : Line} {property : Statement → Bool}
    (found : line.isStatementWith property = true) : line.isStatement = true := by
  unfold isStatementWith Statement.ofLine at found
  cases statement : line.isStatement with
  | false => simp [statement] at found
  | true => rfl

theorem isInstruction_of_isStatementWith {line : Line} {property : Statement → Bool}
    (letter : ∀ statement, property statement = true →
      statement.mnemonic.toList.head?.any Char.isAlpha = true)
    (found : line.isStatementWith property = true) : line.isInstruction = true := by
  obtain ⟨statement, holds, first⟩ := head?_words_of_isStatementWith found
  exact isInstruction_of_isStatement (isStatement_of_isStatementWith found) first
    (letter statement holds)

theorem head?_words_of_spelling {line : Line} {word rest : List Char}
    (spelling : line.chars = '\t' :: (word ++ ' ' :: rest)) (nonempty : word ≠ [])
    (letters : word.all Char.isAlpha = true) : line.words.head? = some word := by
  have tab : Text.isBlank '\t' = true := by decide
  rw [List.all_eq_true] at letters
  have solid : ∀ c ∈ word, Text.isBlank c = false := by
    intro c member
    exact Text.isBlank_of_isAlpha (letters c member)
  rw [words, spelling, Text.words, if_pos tab, Text.words_append_space rest nonempty solid,
    List.head?_cons]

/-- An indented text whose first word has only letters is an instruction, whatever follows. -/
theorem isInstruction_of_spelling {line : Line} {word rest : List Char}
    (spelling : line.chars = '\t' :: (word ++ ' ' :: rest)) (nonempty : word ≠ [])
    (letters : word.all Char.isAlpha = true) : line.isInstruction = true := by
  have first := head?_words_of_spelling spelling nonempty letters
  rw [List.all_eq_true] at letters
  have colonless : word.contains ':' = false := by
    cases colon : word.contains ':' with
    | false => rfl
    | true => exact absurd (letters ':' (List.contains_iff_mem.mp colon)) (by decide)
  cases word with
  | nil => exact absurd rfl nonempty
  | cons c cs =>
      have letter := letters c (List.mem_cons_self ..)
      rw [isInstruction, first, Option.any_some, colonless, List.head?_cons, Option.any_some,
        letter]
      rfl

end Line

end AsmLayout
