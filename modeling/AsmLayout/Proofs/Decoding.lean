import AsmLayout.Proofs.Words
import AsmLayout.Statement

/-! # What a line is, and what a statement says

A line is of one kind, told by its words and their first character. The decoder looks at the text
instead, and finds in a statement the same words: its mnemonic is the first of them, and its operands
start with the second.
-/

namespace AsmLayout

namespace Line

/-- What a line can be. -/
inductive Kind where
  | blank
  | label
  | comment
  | statement
  deriving Repr, DecidableEq

/-- Whether a line is of a kind. A label may start with a slash and is no comment then. -/
def isOf (line : Line) : Kind → Bool
  | .blank => line.isBlank
  | .label => line.isLabel
  | .comment => line.isSlashed && !line.isLabel
  | .statement => line.isStatement

theorem words_of_isBlank {line : Line} (blank : line.isBlank = true) : line.words = [] :=
  (Text.words_eq_nil_iff line.chars).mpr blank

theorem isLabel_of_isBlank {line : Line} (blank : line.isBlank = true) : line.isLabel = false := by
  rw [isLabel, words_of_isBlank blank]

theorem isSlashed_of_isBlank {line : Line} (blank : line.isBlank = true) :
    line.isSlashed = false := by
  rw [isSlashed, Text.trimStart, List.dropWhile_eq_nil_iff.mpr (List.all_eq_true.mp blank)]
  rfl

theorem existsUnique_isOf (line : Line) : ∃! kind, line.isOf kind = true := by
  cases blank : line.isBlank with
  | true =>
      refine ⟨.blank, blank, ?_⟩
      intro kind found
      cases kind <;>
        simp_all [isOf, isStatement, isLabel_of_isBlank blank, isSlashed_of_isBlank blank]
  | false =>
      cases label : line.isLabel with
      | true =>
          refine ⟨.label, label, ?_⟩
          intro kind found
          cases kind <;> simp_all [isOf, isStatement]
      | false =>
          cases slashed : line.isSlashed with
          | true =>
              refine ⟨.comment, by simp [isOf, slashed, label], ?_⟩
              intro kind found
              cases kind <;> simp_all [isOf, isStatement]
          | false =>
              refine ⟨.statement, by simp [isOf, isStatement, slashed, label, blank], ?_⟩
              intro kind found
              cases kind <;> simp_all [isOf]

theorem isBlank_of_isStatement {line : Line} (statement : line.isStatement = true) :
    line.isBlank = false := by
  simp only [isStatement, Bool.and_eq_true, Bool.not_eq_eq_eq_not, Bool.not_true] at statement
  exact statement.1.2

theorem exists_of_isLabel {line : Line} (label : line.isLabel = true) :
    ∃ name behind others, line.label? = some (String.ofList name) ∧ ':' ∉ name ∧
      line.words = (name ++ ':' :: behind) :: others := by
  rw [label?, if_pos label]
  rw [isLabel] at label
  cases spelled : line.words with
  | nil => simp [spelled] at label
  | cons word others =>
      rw [spelled] at label
      have colon : ':' ∈ word := List.contains_iff_mem.mp label
      obtain ⟨name, behind, rfl, fresh⟩ := List.eq_append_cons_of_mem colon
      have text : Text.trimStart line.chars = name ++ ':' :: (behind ++
          (Text.trimStart line.chars).dropWhile (!Text.isBlank ·)) := by
        have nonempty : Text.trimStart line.chars ≠ [] := by
          intro empty
          rw [words, ← Text.words_trimStart, empty, Text.words] at spelled
          contradiction
        have first := Text.words_of_front nonempty (Text.head?_trimStart_any line.chars)
        rw [Text.words_trimStart, ← words, spelled] at first
        injection first with word _
        conv_lhs => rw [← List.takeWhile_append_dropWhile (p := (!Text.isBlank ·))
          (l := Text.trimStart line.chars), ← word]
        rw [List.append_assoc, List.cons_append]
      have taken : (Text.trimStart line.chars).takeWhile (· != ':') = name := by
        rw [text, List.takeWhile_append_of_pos, List.takeWhile_cons_of_neg (by simp),
          List.append_nil]
        intro c member
        exact bne_iff_ne.mpr fun same => fresh (same ▸ member)
      exact ⟨name, behind, others, by rw [taken], fresh, rfl⟩

end Line

namespace Statement

/-- A decoded statement says what the words of a line say. -/
structure Spells (statement : Statement) (source : Line) : Prop where
  line : statement.line = source
  mnemonic : source.mnemonic? = some statement.mnemonic
  words : source.words = statement.mnemonic.toList :: Text.words statement.rest.toList
  front : statement.rest.toList.head?.any Text.isBlank = false
  back : statement.rest.toList.getLast?.any Text.isBlank = false
  operand : statement.firstOperand? = source.words[1]?.map String.ofList

theorem ofLine_of_not_isStatement {line : Line} (other : line.isStatement = false) :
    ofLine line = .error (.notAStatement line.number line.content) := by
  rw [ofLine, if_neg (by simp [other])]

theorem isStatement_of_ofLine {line : Line} {statement : Statement}
    (decoded : ofLine line = .ok statement) : line.isStatement = true := by
  by_contra other
  rw [ofLine_of_not_isStatement (eq_false_of_ne_true other)] at decoded
  contradiction

theorem exists_spells {line : Line} (stated : line.isStatement = true) :
    ∃ statement, ofLine line = .ok statement ∧ statement.Spells line := by
  have nonempty := Text.trim_ne_nil (Line.isBlank_of_isStatement stated)
  have first := Text.words_of_front nonempty (Text.head?_trim_any line.chars)
  rw [Text.words_trim, ← Text.words_trimStart (List.dropWhile _ _)] at first
  have words : line.words = _ := first
  refine ⟨_, if_pos stated, ?_⟩
  constructor
  · rfl
  · rw [Line.mnemonic?, if_pos stated, words, List.head?_cons, Option.map_some]
  · rw [String.toList_ofList, String.toList_ofList, words]
  · rw [String.toList_ofList]
    exact Text.head?_trimStart_any _
  · rw [String.toList_ofList]
    refine Text.getLast?_any_of_suffix ?_ (Text.getLast?_trimEnd_any (Text.trimStart line.chars))
    exact (List.dropWhile_suffix _).trans (List.dropWhile_suffix _)
  · rw [firstOperand?, String.toList_ofList, words, List.getElem?_cons_succ,
      List.head?_eq_getElem?]

theorem spells_of_ofLine {line : Line} {statement : Statement}
    (decoded : ofLine line = .ok statement) : statement.Spells line := by
  obtain ⟨found, same, spells⟩ := exists_spells (isStatement_of_ofLine decoded)
  rw [decoded] at same
  cases same
  exact spells

end Statement

/-- Every line is of one kind. Exactly the statements have a mnemonic and can be decoded; any other
    line is refused with its number and its text. What is decoded spells the words of the line, and the
    name of a label ends at the first colon of the first word. -/
theorem Line.decoding_agrees (line : Line) :
    (∃! kind, line.isOf kind = true) ∧
    ((∃ statement, Statement.ofLine line = .ok statement) ↔ line.isStatement = true) ∧
    (line.mnemonic?.isSome = true ↔ line.isStatement = true) ∧
    (line.isStatement = false →
      Statement.ofLine line = .error (.notAStatement line.number line.content)) ∧
    (∀ statement, Statement.ofLine line = .ok statement → statement.Spells line) ∧
    (line.isLabel = true → ∃ name behind others, line.label? = some (String.ofList name) ∧
      ':' ∉ name ∧ (∀ c ∈ name, Text.isBlank c = false) ∧
      line.words = (name ++ ':' :: behind) :: others) := by
  refine ⟨line.existsUnique_isOf, ⟨?_, ?_⟩, ⟨?_, ?_⟩, ?_, ?_, ?_⟩
  · rintro ⟨statement, decoded⟩
    exact Statement.isStatement_of_ofLine decoded
  · intro stated
    obtain ⟨statement, decoded, -⟩ := Statement.exists_spells stated
    exact ⟨statement, decoded⟩
  · intro named
    by_contra other
    rw [mnemonic?, if_neg other] at named
    contradiction
  · intro stated
    obtain ⟨statement, -, spells⟩ := Statement.exists_spells stated
    rw [spells.mnemonic, Option.isSome_some]
  · exact Statement.ofLine_of_not_isStatement
  · intro statement decoded
    exact Statement.spells_of_ofLine decoded
  · intro label
    obtain ⟨name, behind, others, named, fresh, words⟩ := exists_of_isLabel label
    refine ⟨name, behind, others, named, fresh, ?_, words⟩
    intro c member
    have first : name ++ ':' :: behind ∈ line.words := by
      rw [words]
      exact List.mem_cons_self ..
    exact Text.solid_of_mem_words first c (List.mem_append_left _ member)

/-- A call between blanks of several kinds, and a label that starts like a comment. -/
theorem Line.decoding_agrees_between_blanks :
    let call : Line := ⟨"\u2003call\u00a0\t malloc@PLT, a:b\u3000", 7⟩
    let label : Line := ⟨"\u3000/a:b: c", 0⟩
    call.isStatement = true ∧ (∃ statement, Statement.ofLine call = .ok statement ∧
      statement.Spells call) ∧
    label.isLabel = true ∧ ∃ name behind others, label.label? = some (String.ofList name) ∧
      ':' ∉ name ∧ (∀ c ∈ name, Text.isBlank c = false) ∧
      label.words = (name ++ ':' :: behind) :: others := by
  intro call label
  have stated : call.isStatement = true := by decide +kernel
  have labelled : label.isLabel = true := by decide +kernel
  obtain ⟨-, decodes, -, -, spells, -⟩ := Line.decoding_agrees call
  obtain ⟨statement, decoded⟩ := decodes.mpr stated
  exact ⟨stated, ⟨statement, decoded, spells statement decoded⟩, labelled,
    (Line.decoding_agrees label).2.2.2.2.2 labelled⟩

end AsmLayout
