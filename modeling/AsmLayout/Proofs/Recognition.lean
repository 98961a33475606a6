import AsmLayout.Dialect
import AsmLayout.Proofs.Decoding
import AsmLayout.Section.Allocation
import AsmLayout.Section.Frame
import AsmLayout.Section.Segment

/-! # Recognition does not see spacing

What a line is, and what an edit looks for in it, is told by its words. Some tests compare the normal
spelling, some the text between its blanks, some what the decoder leaves of a statement. All of them
give the same answers for two lines of the same normal spelling, so the kind and number of blanks
between words never matters. Only begin markers are told by the raw text.
-/

namespace AsmLayout

namespace Text

theorem normalize_normalize (cs : List Char) : normalize (normalize cs) = normalize cs := by
  rw [normalize, words_normalize, normalize]

theorem words_eq_of_normalize_eq {cs ds : List Char} (normal : normalize cs = normalize ds) :
    words cs = words ds := by
  rw [← words_normalize, normal, words_normalize]

theorem solid_of_any {cs : List Char} (solid : cs.any isBlank = false) :
    ∀ c ∈ cs, isBlank c = false := by
  intro c member
  exact eq_false_of_ne_true (List.any_eq_false.mp solid c member)

theorem trim_eq_iff_words_eq {word : List Char} (nonempty : word ≠ [])
    (solid : word.any isBlank = false) (cs : List Char) : trim cs = word ↔ words cs = [word] := by
  constructor
  · rintro rfl
    rw [← words_trim, words_of_solid nonempty (solid_of_any solid)]
  · intro single
    have some : trim cs ≠ [] := by
      intro empty
      rw [← words_trim, empty, words] at single
      contradiction
    have first := words_of_front some (head?_trim_any cs)
    rw [words_trim, single, List.cons.injEq] at first
    obtain ⟨same, none⟩ := first
    -- Blanks behind the word would stand at the end of the trimmed text.
    have last : ((trim cs).dropWhile (!isBlank ·)).getLast?.any isBlank = false :=
      getLast?_any_of_suffix (List.dropWhile_suffix _) (getLast?_trimEnd_any (trimStart cs))
    have behind : (trim cs).dropWhile (!isBlank ·) = [] := by
      have blank := List.all_eq_true.mp ((words_eq_nil_iff _).mp none.symm)
      cases final : ((trim cs).dropWhile (!isBlank ·)).getLast? with
      | none => exact List.getLast?_eq_none_iff.mp final
      | some c =>
          rw [final, Option.any_some, blank c (List.mem_of_getLast? final)] at last
          contradiction
    rw [← List.takeWhile_append_dropWhile (p := (!isBlank ·)) (l := trim cs), behind, ← same,
      List.append_nil]

theorem isPrefixOf_eq_head?_words {pattern cs : List Char} (nonempty : pattern ≠ [])
    (solid : pattern.any isBlank = false) (front : cs.head?.any isBlank = false) :
    pattern.isPrefixOf cs = (words cs).head?.any pattern.isPrefixOf := by
  cases cs with
  | nil => cases pattern <;> simp_all [words]
  | cons c rest =>
      rw [words_of_front (List.cons_ne_nil c rest) front, List.head?_cons, Option.any_some,
        Bool.eq_iff_iff, List.isPrefixOf_iff_prefix, List.isPrefixOf_iff_prefix]
      constructor
      · rintro ⟨behind, whole⟩
        rw [← whole, List.takeWhile_append_of_pos fun d member => by simp [solid_of_any solid d member]]
        exact List.prefix_append ..
      · intro inside
        exact inside.trans (List.takeWhile_prefix _)

end Text

/-- Two statements with the same mnemonic and the same words behind it. -/
structure Statement.SameWords (statement other : Statement) : Prop where
  mnemonic : statement.mnemonic = other.mnemonic
  operands : Text.words statement.rest.toList = Text.words other.rest.toList
  front : statement.rest.toList.head?.any Text.isBlank = false
  front' : other.rest.toList.head?.any Text.isBlank = false

theorem Statement.SameWords.firstOperand? {statement other : Statement}
    (same : statement.SameWords other) : statement.firstOperand? = other.firstOperand? := by
  rw [Statement.firstOperand?, same.operands, Statement.firstOperand?]

namespace Line

/-- Two lines of which the same is recognized. -/
structure RecognizedAlike (line other : Line) : Prop where
  isBlank : line.isBlank = other.isBlank
  isLabel : line.isLabel = other.isLabel
  label? : line.label? = other.label?
  isFunctionLabel : line.isFunctionLabel = other.isFunctionLabel
  isStatement : line.isStatement = other.isStatement
  isSegmentOf : ∀ names, line.isSegmentOf names = other.isSegmentOf names
  isSegment : line.isSegment = other.isSegment
  isBoundary : line.isBoundary = other.isBoundary
  startsWith : ∀ pattern, line.startsWith pattern = other.startsWith pattern
  mnemonic? : line.mnemonic? = other.mnemonic?
  statement : (Statement.ofLine line).toOption.map (fun statement =>
      (statement.mnemonic, statement.firstOperand?)) =
    (Statement.ofLine other).toOption.map fun statement =>
      (statement.mnemonic, statement.firstOperand?)
  splitsBefore : ∀ dialect : Dialect, dialect.splitsBefore line = dialect.splitsBefore other
  isOpenedBy : ∀ segment : DataSegment, segment.isOpenedBy line = segment.isOpenedBy other
  isAllocationCall : line.isAllocationCall = other.isAllocationCall
  isFunctionEnd : line.isFunctionEnd = other.isFunctionEnd
  isFramePush : line.isFramePush = other.isFramePush
  isFramePop : line.isFramePop = other.isFramePop
  isReturn : line.isReturn = other.isReturn
  isLeave : line.isLeave = other.isLeave

theorem isBlank_eq_isEmpty_words (line : Line) : line.isBlank = line.words.isEmpty := by
  rw [Bool.eq_iff_iff, List.isEmpty_iff, words, Text.words_eq_nil_iff, isBlank]

theorem isLabel_eq_any_words (line : Line) :
    line.isLabel = line.words.head?.any (·.contains ':') := by
  rw [isLabel]
  cases line.words <;> rfl

theorem label?_eq (line : Line) :
    line.label? = if line.isLabel then
      line.words.head?.map fun word => String.ofList (word.takeWhile (· != ':'))
    else none := by
  cases label : line.isLabel with
  | false => simp [label?, label]
  | true =>
      obtain ⟨name, behind, others, told, fresh, spelled⟩ := exists_of_isLabel label
      have taken : (name ++ ':' :: behind).takeWhile (· != ':') = name := by
        rw [List.takeWhile_append_of_pos, List.takeWhile_cons_of_neg (by simp), List.append_nil]
        intro c member
        exact bne_iff_ne.mpr fun same => fresh (same ▸ member)
      rw [told, spelled, if_pos rfl, List.head?_cons, Option.map_some, taken]

theorem isSlashed_eq (line : Line) : line.isSlashed = (line.normalized.head? == some '/') := by
  rw [isSlashed, normalized, Text.head?_normalize]

theorem isFunctionEnd_iff (line : Line) :
    line.isFunctionEnd = true ↔ line.words = [".cfi_endproc".toList] := by
  rw [isFunctionEnd, beq_iff_eq, Text.trim_eq_iff_words_eq (by decide) (by decide)]
  rfl

variable {line other : Line}

theorem normalized_congr (same : line.words = other.words) : line.normalized = other.normalized :=
  congrArg [' '].intercalate same

theorem isBlank_congr (same : line.words = other.words) : line.isBlank = other.isBlank := by
  rw [isBlank_eq_isEmpty_words, isBlank_eq_isEmpty_words, same]

theorem label?_congr (same : line.words = other.words) : line.label? = other.label? := by
  rw [label?_eq, label?_eq, isLabel_eq_any_words, isLabel_eq_any_words, same]

theorem startsWith_congr (same : line.words = other.words) (pattern : String) :
    line.startsWith pattern = other.startsWith pattern := by
  rw [startsWith, normalized_congr same, startsWith]

theorem isStatement_congr (same : line.words = other.words) :
    line.isStatement = other.isStatement := by
  rw [isStatement, isLabel_eq_any_words, isBlank_congr same, isSlashed_eq, normalized_congr same, same,
    isStatement, isLabel_eq_any_words, isSlashed_eq]

theorem isSegmentOf_congr (same : line.words = other.words) (names : List String) :
    line.isSegmentOf names = other.isSegmentOf names := by
  simp only [isSegmentOf, isStatement_congr same, startsWith_congr same]

theorem mnemonic?_congr (same : line.words = other.words) : line.mnemonic? = other.mnemonic? := by
  rw [mnemonic?, isStatement_congr same, same, mnemonic?]

theorem map_ofLine_congr {α : Type} {reading : Statement → α}
    (sees : ∀ {statement other : Statement}, statement.SameWords other →
      reading statement = reading other) (same : line.words = other.words) :
    (Statement.ofLine line).toOption.map reading =
      (Statement.ofLine other).toOption.map reading := by
  cases stated : line.isStatement with
  | false =>
      rw [Statement.ofLine_of_not_isStatement stated,
        Statement.ofLine_of_not_isStatement ((isStatement_congr same).symm.trans stated)]
      rfl
  | true =>
      obtain ⟨statement, decoded, spells⟩ := Statement.exists_spells stated
      obtain ⟨statement', decoded', spells'⟩ :=
        Statement.exists_spells ((isStatement_congr same).symm.trans stated)
      have words := spells.words
      rw [same, spells'.words, List.cons.injEq] at words
      rw [decoded, decoded']
      exact congrArg some
        (sees ⟨(String.toList_injective words.1).symm, words.2.symm, spells.front, spells'.front⟩)

theorem isStatementWith_congr {property : Statement → Bool}
    (sees : ∀ {statement other : Statement}, statement.SameWords other →
      property statement = property other) (same : line.words = other.words) :
    line.isStatementWith property = other.isStatementWith property := by
  have decoded (line : Line) : line.isStatementWith property =
      ((Statement.ofLine line).toOption.map property).getD false := by
    rw [isStatementWith]
    cases Statement.ofLine line <;> rfl
  rw [decoded, map_ofLine_congr sees same, ← decoded]

theorem isFramePush_congr (same : line.words = other.words) :
    line.isFramePush = other.isFramePush := by
  refine isStatementWith_congr ?_ same
  intro statement other alike
  have solid : "%rbp".toList.any Text.isBlank = false := by decide
  rw [alike.mnemonic, Text.isPrefixOf_eq_head?_words (by decide) solid alike.front, alike.operands,
    Text.isPrefixOf_eq_head?_words (by decide) solid alike.front']

theorem recognizedAlike_of_words (same : line.words = other.words)
    (number : line.number = other.number) : RecognizedAlike line other where
  isBlank := isBlank_congr same
  isLabel := by rw [isLabel_eq_any_words, isLabel_eq_any_words, same]
  label? := label?_congr same
  isFunctionLabel := by rw [isFunctionLabel, label?_congr same, isFunctionLabel]
  isStatement := isStatement_congr same
  isSegmentOf := isSegmentOf_congr same
  isSegment := isSegmentOf_congr same segmentNames
  isBoundary := by
    rw [isBoundary, isBlank_congr same, isStatement_congr same, isSegment, isSegmentOf_congr same,
      number, isBoundary, isSegment]
  startsWith := startsWith_congr same
  mnemonic? := mnemonic?_congr same
  statement := map_ofLine_congr (fun alike => by rw [alike.mnemonic, alike.firstOperand?]) same
  splitsBefore dialect := by
    cases dialect with
    | libfirm => exact isBlank_congr same
    | gcc =>
        rw [Dialect.splitsBefore, normalized_congr same, isSegment, isSegmentOf_congr same,
          Dialect.splitsBefore, isSegment]
  isOpenedBy segment := by
    simp only [DataSegment.isOpenedBy, isStatement_congr same, startsWith_congr same]
  isAllocationCall :=
    isStatementWith_congr (fun alike => by rw [alike.mnemonic, alike.firstOperand?]) same
  isFunctionEnd := by rw [Bool.eq_iff_iff, isFunctionEnd_iff, isFunctionEnd_iff, same]
  isFramePush := isFramePush_congr same
  isFramePop := isStatementWith_congr (fun alike => by rw [alike.mnemonic, alike.firstOperand?]) same
  isReturn := isStatementWith_congr (fun alike => by rw [alike.mnemonic, alike.firstOperand?]) same
  isLeave := by rw [isLeave, mnemonic?_congr same, isLeave]

/-- Lines of the same normal spelling and the same number are recognized alike, however their words are
    spaced. The normal spelling is its own normal spelling, so a line may as well be read in it. -/
theorem recognition_ignores_spacing :
    (∀ line other : Line, line.normalized = other.normalized → line.number = other.number →
      RecognizedAlike line other) ∧
    ∀ line : Line, Text.normalize line.normalized = line.normalized ∧
      RecognizedAlike line (line.withContent (String.ofList line.normalized)) := by
  have alike : ∀ line other : Line, line.normalized = other.normalized →
      line.number = other.number → RecognizedAlike line other := by
    intro line other normal number
    exact recognizedAlike_of_words (Text.words_eq_of_normalize_eq normal) number
  refine ⟨alike, fun line => ?_⟩
  have normal : Text.normalize line.normalized = line.normalized :=
    Text.normalize_normalize line.chars
  have spelled : (line.withContent (String.ofList line.normalized)).normalized =
      Text.normalize line.normalized := congrArg Text.normalize String.toList_ofList
  exact ⟨normal, alike _ _ (spelled.trans normal).symm rfl⟩

/-- A call that is spelled in two ways. -/
theorem recognition_ignores_spacing_of_call :
    let call : Line := ⟨"\tcall\tmalloc@PLT, x", 4⟩
    let other : Line := ⟨"\u2003call \u00a0malloc@PLT,\t\tx\u3000 ", 4⟩
    call.normalized = other.normalized ∧ call.number = other.number ∧
      call.isAllocationCall = true ∧ other.isAllocationCall = true ∧ RecognizedAlike call other := by
  intro call other
  have normal : call.normalized = other.normalized := by decide +kernel
  have called : call.isAllocationCall = true := by decide +kernel
  have alike := recognition_ignores_spacing.1 call other normal rfl
  exact ⟨normal, rfl, called, alike.isAllocationCall.symm.trans called, alike⟩

/-- Begin markers are told by the raw text: a blank in front hides one. -/
example : Dialect.isBeginMarker ⟨"# -- Begin f", 0⟩ = true ∧
    Dialect.isBeginMarker ⟨" # -- Begin f", 0⟩ = false := by decide +kernel

end Line

end AsmLayout
