import AsmLayout.Proofs.Decoding
import AsmLayout.Proofs.Draws
import AsmLayout.Proofs.Listing.Partition
import AsmLayout.Proofs.Section.Allocation
import AsmLayout.Random.Keystream

/-! # Where adjustments stand

Every allocation call of a section, told by its first two words, gets one adjustment right in front
of it. The amounts are successive draws that go to the calls from the last one to the first, so equal
generators lead to equal lines.
-/

namespace AsmLayout

namespace Random

variable {G : Type} [Generator G] {range : Interval}

/-- Successive numbers of a range. -/
def draws (range : Interval) : Nat → G → List Nat × G
  | 0, g => ([], g)
  | count + 1, g =>
    let (first, g) := inInterval range g
    let (others, g) := draws range count g
    (first :: others, g)

theorem draws_succ (range : Interval) (count : Nat) (g : G) :
    draws range (count + 1) g =
      ((draws range count g).1 ++ [(inInterval range (draws range count g).2).1],
        (inInterval range (draws range count g).2).2) := by
  induction count generalizing g with
  | zero => rfl
  | succ count ih =>
      rw [draws]
      dsimp only
      rw [ih, draws]
      rfl

theorem length_draws (range : Interval) (count : Nat) (g : G) :
    (draws range count g).1.length = count := by
  induction count generalizing g with
  | zero => rfl
  | succ count ih => rw [draws_succ, List.length_append, ih, List.length_singleton]

theorem draws_bounds (filled : range.isEmpty = false) {count : Nat} {g : G} :
    ∀ number ∈ (draws range count g).1, range.low ≤ number ∧ number < range.high := by
  induction count generalizing g with
  | zero => exact fun number absent => absurd absent List.not_mem_nil
  | succ count ih =>
      intro number member
      rcases List.mem_cons.mp member with rfl | later
      · exact inInterval_lt filled g
      · exact ih number later

end Random

/-! ## Calls -/

namespace Line

theorem isStatementWith_iff {line : Line} {property : Statement → Bool} :
    line.isStatementWith property = true ↔
      ∃ statement, Statement.ofLine line = .ok statement ∧ property statement = true := by
  rw [isStatementWith]
  cases Statement.ofLine line <;> simp

/-- A statement whose first word is a call and whose second word, down to an at sign, is the name of
    an allocation function. -/
def CallsAllocation (line : Line) : Prop :=
  line.isStatement = true ∧ ∃ mnemonic operand others, line.words = mnemonic :: operand :: others ∧
    (mnemonic = "call".toList ∨ mnemonic = "callq".toList) ∧
    String.ofList (operand.takeWhile (· != '@')) ∈ ["malloc", "_Znwm", "_Znam", "calloc"]

theorem isAllocationCall_iff (line : Line) :
    line.isAllocationCall = true ↔ line.CallsAllocation := by
  rw [isAllocationCall, isStatementWith_iff]
  constructor
  · rintro ⟨statement, decoded, called⟩
    have spells := Statement.spells_of_ofLine decoded
    obtain ⟨mnemonic, target⟩ := Bool.and_eq_true_iff.mp called
    rw [spells.operand, spells.words, List.getElem?_cons_succ] at target
    cases operands : Text.words statement.rest.toList with
    | nil => simp [operands] at target
    | cons operand others =>
        rw [operands] at target
        refine ⟨Statement.isStatement_of_ofLine decoded, _, operand, others,
          operands ▸ spells.words, ?_, ?_⟩
        · simpa [List.contains_iff_mem, String.ext_iff] using mnemonic
        · simpa [callTarget, allocationFunctions] using target
  · rintro ⟨stated, mnemonic, operand, others, words, call, target⟩
    obtain ⟨statement, decoded, spells⟩ := Statement.exists_spells stated
    have same := spells.words
    rw [words, List.cons.injEq] at same
    refine ⟨statement, decoded, Bool.and_eq_true_iff.mpr ⟨?_, ?_⟩⟩
    · simpa [List.contains_iff_mem, String.ext_iff, ← same.1] using call
    · rw [spells.operand, words]
      simpa [callTarget, allocationFunctions] using target

end Line

/-! ## Adjustments -/

/-- Texts of lines with an adjustment right in front of every allocation call, and nothing else put
    in. The amounts are in the order of the calls. -/
inductive AdjustedBy (width : PointerWidth) : List Line → List Nat → List String → Prop where
  | nil : AdjustedBy width [] [] []
  | call {line : Line} {rest : List Line} {amount : Nat} {amounts : List Nat}
      {contents : List String} : line.isAllocationCall = true →
      AdjustedBy width rest amounts contents →
      AdjustedBy width (line :: rest) (amount :: amounts)
        (width.sizeAdjustment amount :: line.content :: contents)
  | other {line : Line} {rest : List Line} {amounts : List Nat} {contents : List String} :
      line.isAllocationCall = false → AdjustedBy width rest amounts contents →
      AdjustedBy width (line :: rest) amounts (line.content :: contents)

variable {G : Type} [Random.Generator G]

/-- What is drawn for some lines, where it goes and what is reported. -/
theorem padCalls_placed (range : Random.Interval) (width : PointerWidth) (lines : List Line)
    (g : G) :
    let drawn := Random.draws range (lines.countP Line.isAllocationCall) g
    let padded := padCalls range width lines g
    AdjustedBy width lines drawn.1.reverse (padded.1.1.map (·.content)) ∧
      padded.1.2.map (·.amount) = drawn.1.reverse ∧
      padded.1.2.map (·.line) = (lines.filter Line.isAllocationCall).map (·.number) ∧
      padded.2 = drawn.2 ∧
      padded.1.1.length = lines.length + lines.countP Line.isAllocationCall := by
  -- The lines behind are padded first, so a call in front of them takes one draw more.
  induction lines generalizing g with
  | nil => exact ⟨.nil, rfl, rfl, rfl, rfl⟩
  | cons line rest ih =>
      obtain ⟨adjusted, amounts, numbers, after, length⟩ := ih g
      dsimp only
      rw [padCalls]
      dsimp only
      split
      · rename_i call
        rw [List.countP_cons_of_pos call, List.filter_cons_of_pos call, Random.draws_succ,
          List.reverse_append, List.reverse_singleton, List.singleton_append]
        rw [after]
        refine ⟨.call call adjusted, ?_, ?_, rfl, ?_⟩
        · rw [List.map_cons, amounts]
        · rw [List.map_cons, List.map_cons, numbers]
        · rw [List.length_cons, List.length_cons, length, List.length_cons]
          omega
      · rename_i other
        rw [List.countP_cons_of_neg other, List.filter_cons_of_neg other]
        refine ⟨.other (eq_false_of_ne_true other) adjusted, amounts, numbers, after, ?_⟩
        rw [List.length_cons, length, List.length_cons, Nat.add_right_comm]

namespace Section

/-- Nothing happens without a number to draw or a call to pad. Otherwise every call gets one
    adjustment, the amounts are drawn from the last call to the first, and numbers go on from the first
    one. -/
theorem padAllocations_placed (range : Random.Interval) (width : PointerWidth) (sec : Section)
    (g : G) :
    let calls := sec.lines.countP Line.isAllocationCall
    let padded := sec.padAllocations range width g
    (∀ line : Line, line.isAllocationCall = true ↔ line.CallsAllocation) ∧
    if range.high ≤ range.low ∨ calls = 0 then padded = ((sec, []), g)
    else
      let drawn := Random.draws range calls g
      padded.1.2.length = calls ∧
      padded.1.2.map (·.line) = (sec.lines.filter Line.isAllocationCall).map (·.number) ∧
      padded.1.2.map (·.amount) = drawn.1.reverse ∧
      AdjustedBy width sec.lines drawn.1.reverse padded.1.1.contents ∧
      (∀ amount ∈ drawn.1, range.low ≤ amount ∧ amount < range.high) ∧
      padded.1.1.kind = sec.kind ∧ padded.1.1.dialect = sec.dialect ∧
      padded.1.1.lines.map (·.number) =
        List.range' sec.firstNumber (sec.lines.length + calls) ∧
      padded.2 = drawn.2 := by
  intro calls padded
  refine ⟨Line.isAllocationCall_iff, ?_⟩
  have still : (range.isEmpty || !sec.lines.any (·.isAllocationCall)) = true ↔
      range.high ≤ range.low ∨ calls = 0 := by
    simp [calls, Random.Interval.isEmpty, List.countP_eq_zero]
  split
  · rename_i idle
    exact if_pos (still.mpr idle)
  · rename_i busy
    have filled : range.isEmpty = false := by
      simpa [Random.Interval.isEmpty] using (not_or.mp busy).1
    have edited : padded = ((sec.edit (padCalls range width sec.lines g).1.1,
        (padCalls range width sec.lines g).1.2), (padCalls range width sec.lines g).2) :=
      if_neg (still.not.mpr busy)
    obtain ⟨adjusted, amounts, numbers, after, length⟩ := padCalls_placed range width sec.lines g
    rw [edited]
    refine ⟨?_, numbers, amounts, ?_, Random.draws_bounds filled, rfl, rfl, ?_, after⟩
    · rw [← List.length_map (·.amount), amounts, List.length_reverse, Random.length_draws]
    · rw [contents_edit]
      exact adjusted
    · rw [edit, Line.number_renumber, length]

/-- Two calls, one in the first line and one in the last, which takes the first draw. -/
theorem padAllocations_placed_at_both_ends :
    let sec := ofLines .gcc
      (Line.numbered 4 ["\tcall malloc@PLT", "\tmovq %rax, %rbx", "\tcallq _Znwm"])
    let g : Random.Keystream := ⟨Vector.replicate 8 0, 0, [0, 0x80000000, 0, 0]⟩
    let padded := sec.padAllocations ⟨8, 24⟩ .bits64 g
    let drawn := Random.draws ⟨8, 24⟩ 2 g
    drawn.1 = [16, 8] ∧ padded.1.2.length = 2 ∧ padded.1.2.map (·.line) = [4, 6] ∧
      AdjustedBy .bits64 sec.lines [8, 16] padded.1.1.contents ∧
      padded.1.1.lines.map (·.number) = [4, 5, 6, 7, 8] ∧ padded.2 = drawn.2 := by
  intro sec g padded drawn
  have calls : sec.lines.countP Line.isAllocationCall = 2 := by decide +kernel
  have lines : (sec.lines.filter Line.isAllocationCall).map (·.number) = [4, 6] := by
    decide +kernel
  have amounts : (Random.draws ⟨8, 24⟩ 2 g).1 = [16, 8] := by decide +kernel
  obtain ⟨-, placed⟩ := padAllocations_placed ⟨8, 24⟩ .bits64 sec g
  rw [calls, if_neg (by decide), lines] at placed
  dsimp only at placed
  rw [amounts] at placed
  obtain ⟨count, numbers, -, adjusted, -, -, -, dense, after⟩ := placed
  exact ⟨amounts, count, numbers, adjusted, dense, after⟩

end Section

end AsmLayout
