import AsmLayout.Proofs.Section.Reshaping
import AsmLayout.Section.Allocation

/-! # Padded allocation calls keep landmarks

A call and the adjustment in front of it are both instructions.
-/

namespace AsmLayout

theorem Line.isAllocationCall_numberless (line : Line) (number : Nat) :
    { line with number }.isAllocationCall = line.isAllocationCall :=
  isStatementWith_numberless (fun _ _ => rfl) line number

theorem Line.head?_words_of_isAllocationCall {line : Line} (call : line.isAllocationCall = true) :
    line.words.head? = some "call".toList ∨ line.words.head? = some "callq".toList := by
  obtain ⟨statement, called, first⟩ := Line.head?_words_of_isStatementWith call
  simp only [Bool.and_eq_true, List.contains_iff_mem, List.mem_cons, List.not_mem_nil,
    or_false] at called
  rcases called.1 with plain | suffixed
  · exact .inl (by rw [first, plain])
  · exact .inr (by rw [first, suffixed])

theorem isInstruction_of_isAllocationCall {line : Line} (call : line.isAllocationCall = true) :
    line.isInstruction = true := by
  apply Line.isInstruction_of_isStatementWith _ call
  intro statement called
  simp only [Bool.and_eq_true, List.contains_iff_mem, List.mem_cons, List.not_mem_nil,
    or_false] at called
  rcases called.1 with mnemonic | mnemonic <;> rw [mnemonic] <;> decide

theorem spelling_sizeAdjustment (width : PointerWidth) (amount : Nat) :
    ∃ word rest, (width.sizeAdjustment amount).toList = '\t' :: (word ++ ' ' :: rest) ∧
      (word = "addq".toList ∨ word = "add".toList) := by
  cases width with
  | bits64 =>
      refine ⟨"addq".toList, '$' :: ((toString amount).toList ++ ", %rdi".toList), ?_, .inl rfl⟩
      simp [PointerWidth.sizeAdjustment, toString]
  | bits32 =>
      refine ⟨"add".toList, '$' :: ((toString amount).toList ++ ", %edi".toList), ?_, .inr rfl⟩
      simp [PointerWidth.sizeAdjustment, toString]

theorem head?_words_sizeAdjustment (width : PointerWidth) (amount number : Nat) :
    (⟨width.sizeAdjustment amount, number⟩ : Line).words.head? = some "addq".toList ∨
      (⟨width.sizeAdjustment amount, number⟩ : Line).words.head? = some "add".toList := by
  obtain ⟨word, rest, spelling, rfl | rfl⟩ := spelling_sizeAdjustment width amount
  · exact .inl (Line.head?_words_of_spelling spelling (by decide) (by decide))
  · exact .inr (Line.head?_words_of_spelling spelling (by decide) (by decide))

theorem isInstruction_sizeAdjustment (width : PointerWidth) (amount number : Nat) :
    (⟨width.sizeAdjustment amount, number⟩ : Line).isInstruction = true := by
  obtain ⟨word, rest, spelling, rfl | rfl⟩ := spelling_sizeAdjustment width amount
  · exact Line.isInstruction_of_spelling spelling (by decide) (by decide)
  · exact Line.isInstruction_of_spelling spelling (by decide) (by decide)

variable {G : Type} [Random.Generator G]

theorem padCalls_keepsLandmarks (range : Random.Interval) (width : PointerWidth) (lines : List Line)
    (g : G) : KeepsLandmarks lines (padCalls range width lines g).1.1 := by
  induction lines generalizing g with
  | nil => exact .refl []
  | cons line rest ih =>
      rw [padCalls]
      dsimp only
      split
      · rename_i call
        have called := isInstruction_of_isAllocationCall call
        have adjusted := isInstruction_sizeAdjustment width
        exact (KeepsLandmarks.of_instructions called (adjusted _ _) called).append (ih g)
      · exact (ih g).cons line

theorem Section.padAllocations_reshaped (range : Random.Interval) (width : PointerWidth)
    (sec : Section) (g : G) : Reshaped sec (sec.padAllocations range width g).1.1 := by
  rw [padAllocations]
  split
  · exact .refl sec
  · exact reshaped_edit (padCalls_keepsLandmarks range width sec.lines g)

end AsmLayout
