import AsmLayout.Proofs.Runs
import AsmLayout.Proofs.Section.Allocation

/-! # Lines with adjustments put in

Adjustments are put in front of allocation calls, or of none. A property that neither calls nor
adjustments have is found in the same places with and without them, so whatever is cut by such
properties is cut in the same way. Numbers are left aside: lines without any insertion are lines of the
same text.
-/

namespace AsmLayout

theorem Line.eq_of_content {line line' : Line} (same : line'.content = line.content) :
    line' = { line with number := line'.number } := by
  cases line'
  simp only at same
  rw [same]

/-- A property of lines that asks for their text alone, and that neither allocation calls nor
    adjustments have. -/
structure Overlooks (property : Line → Bool) : Prop where
  numberless : ∀ line number, property { line with number } = property line
  call : ∀ line, line.isAllocationCall = true → property line = false
  adjustment : ∀ (width : PointerWidth) (amount number : Nat),
    property ⟨width.sizeAdjustment amount, number⟩ = false

/-- The first words of allocation calls and of adjustments. -/
def overlookedWords : List (List Char) :=
  ["call".toList, "callq".toList, "addq".toList, "add".toList]

namespace Overlooks

variable {p : Line → Bool}

theorem of_tellsLandmark (tells : TellsLandmark p) : Overlooks p where
  numberless := tells.numberless
  call line call := tells.no_instruction line (isInstruction_of_isAllocationCall call)
  adjustment width amount number :=
    tells.no_instruction _ (isInstruction_sizeAdjustment width amount number)

theorem of_head? (numberless : ∀ line number, p { line with number } = p line)
    (mnemonics : List (List Char))
    (told : ∀ line, p line = true → ∃ word ∈ mnemonics, line.words.head? = some word)
    (others : ∀ word ∈ mnemonics, word ∉ overlookedWords) : Overlooks p := by
  have unlike : ∀ {line : Line} {word : List Char}, line.words.head? = some word →
      word ∈ overlookedWords → p line = false := by
    intro line word first listed
    apply eq_false_of_ne_true
    intro holds
    obtain ⟨other, mnemonic, first'⟩ := told line holds
    rw [first, Option.some.injEq] at first'
    exact others other mnemonic (first' ▸ listed)
  refine ⟨numberless, ?_, ?_⟩
  · intro line call
    rcases Line.head?_words_of_isAllocationCall call with first | first
    · exact unlike first (by decide)
    · exact unlike first (by decide)
  · intro width amount number
    rcases head?_words_sizeAdjustment width amount number with first | first
    · exact unlike first (by decide)
    · exact unlike first (by decide)

theorem of_isStatementWith {property : Statement → Bool}
    (blind : ∀ statement line, property { statement with line } = property statement)
    (mnemonics : List String)
    (told : ∀ statement, property statement = true → statement.mnemonic ∈ mnemonics)
    (others : ∀ word ∈ mnemonics.map String.toList, word ∉ overlookedWords) :
    Overlooks fun line => line.isStatementWith property := by
  refine .of_head? (Line.isStatementWith_numberless blind) (mnemonics.map String.toList) ?_ others
  intro line holds
  obtain ⟨statement, found, first⟩ := Line.head?_words_of_isStatementWith holds
  exact ⟨_, List.mem_map_of_mem (told statement found), first⟩

theorem eq_of_content (overlooks : Overlooks p) {line line' : Line}
    (same : line'.content = line.content) : p line' = p line := by
  rw [Line.eq_of_content same, overlooks.numberless]

end Overlooks

/-- What may be put in front of lines. -/
structure Insertion where
  front : Line → Option String
  numberless : ∀ line number, front { line with number } = front line
  call : ∀ {line text}, front line = some text → line.isAllocationCall = true
  adjustment : ∀ {line text}, front line = some text →
    ∃ (width : PointerWidth) (amount : Nat), text = width.sizeAdjustment amount

namespace Insertion

/-- An adjustment by one amount in front of every allocation call. -/
def ofAmount (width : PointerWidth) (amount : Nat) : Insertion where
  front line := if line.isAllocationCall then some (width.sizeAdjustment amount) else none
  numberless line number := by rw [line.isAllocationCall_numberless]
  call {line text} put := by
    split at put
    · assumption
    · contradiction
  adjustment {line text} put := by
    split at put
    · exact ⟨width, amount, (Option.some.inj put).symm⟩
    · contradiction

def nothing : Insertion where
  front _ := none
  numberless _ _ := rfl
  call put := by contradiction
  adjustment put := by contradiction

theorem front_eq_of_content (ins : Insertion) {line line' : Line}
    (same : line'.content = line.content) : ins.front line' = ins.front line := by
  rw [Line.eq_of_content same, ins.numberless]

/-- Nothing is put in front of an indented instruction that is not a call. -/
theorem front_of_spelling (ins : Insertion) {line : Line} {word rest : List Char}
    (spelling : line.chars = '\t' :: (word ++ ' ' :: rest)) (nonempty : word ≠ [])
    (letters : word.all Char.isAlpha = true)
    (other : word ≠ "call".toList ∧ word ≠ "callq".toList) : ins.front line = none := by
  have first := Line.head?_words_of_spelling spelling nonempty letters
  cases put : ins.front line with
  | none => rfl
  | some text =>
      rcases Line.head?_words_of_isAllocationCall (ins.call put) with call | call
      · exact absurd (Option.some.inj (first.symm.trans call)) other.1
      · exact absurd (Option.some.inj (first.symm.trans call)) other.2

variable {ins : Insertion} {p : Line → Bool}

/-- Neither a call, also under another number, nor what is put in front of it has the property. -/
theorem false_of_put (overlooks : Overlooks p) {line new line' : Line}
    (put : ins.front line = some new.content) (same : line'.content = line.content) :
    p line = false ∧ p new = false ∧ p line' = false := by
  obtain ⟨width, amount, text⟩ := ins.adjustment put
  have own := overlooks.call line (ins.call put)
  have adjusted := overlooks.adjustment width amount new.number
  rw [← text] at adjusted
  exact ⟨own, adjusted, (overlooks.eq_of_content same).trans own⟩

theorem front_eq_none (overlooks : Overlooks p) {line : Line} (holds : p line = true) :
    ins.front line = none := by
  cases put : ins.front line with
  | none => rfl
  | some text =>
      rw [overlooks.call line (ins.call put)] at holds
      contradiction

end Insertion

/-- Lines, and the same texts with those in front that an insertion asks for. -/
inductive Inserted (ins : Insertion) : List Line → List Line → Prop where
  | nil : Inserted ins [] []
  | keep {line line' : Line} {rest rest' : List Line} : ins.front line = none →
      line'.content = line.content → Inserted ins rest rest' →
      Inserted ins (line :: rest) (line' :: rest')
  | put {line new line' : Line} {rest rest' : List Line} : ins.front line = some new.content →
      line'.content = line.content → Inserted ins rest rest' →
      Inserted ins (line :: rest) (new :: line' :: rest')

namespace Inserted

variable {ins : Insertion} {p : Line → Bool} {xs xs' ys ys' : List Line}

theorem contents (inserted : Inserted ins xs ys) :
    ys.map (·.content) = xs.flatMap fun line => (ins.front line).toList ++ [line.content] := by
  induction inserted with
  | nil => rfl
  | keep free same _ ih =>
      rw [List.map_cons, ih, List.flatMap_cons, free, same]
      rfl
  | put put same _ ih =>
      rw [List.map_cons, List.map_cons, ih, List.flatMap_cons, put, same]
      rfl

theorem congr (inserted : Inserted ins xs ys) (before : xs'.map (·.content) = xs.map (·.content))
    (after : ys'.map (·.content) = ys.map (·.content)) : Inserted ins xs' ys' := by
  induction inserted generalizing xs' ys' with
  | nil =>
      rw [List.map_nil, List.map_eq_nil_iff] at before after
      rw [before, after]
      exact .nil
  | keep free same _ ih =>
      obtain ⟨line₁, rest₁, rfl, text, before⟩ := List.map_eq_cons_iff.mp before
      obtain ⟨line₂, rest₂, rfl, text', after⟩ := List.map_eq_cons_iff.mp after
      refine .keep ?_ (text'.trans (same.trans text.symm)) (ih before after)
      rw [ins.front_eq_of_content text, free]
  | put put same _ ih =>
      obtain ⟨line₁, rest₁, rfl, text, before⟩ := List.map_eq_cons_iff.mp before
      obtain ⟨new, rest₂, rfl, added, after⟩ := List.map_eq_cons_iff.mp after
      obtain ⟨line₂, rest₃, rfl, text', after⟩ := List.map_eq_cons_iff.mp after
      refine .put ?_ (text'.trans (same.trans text.symm)) (ih before after)
      rw [ins.front_eq_of_content text, put, added]

theorem nothing_iff : Inserted .nothing xs ys ↔ ys.map (·.content) = xs.map (·.content) := by
  constructor
  · intro inserted
    rw [inserted.contents]
    exact (List.map_eq_flatMap ..).symm
  · intro same
    have own (lines : List Line) : Inserted .nothing lines lines := by
      induction lines with
      | nil => exact .nil
      | cons line rest ih => exact .keep rfl rfl ih
    exact (own xs).congr rfl same

theorem append (left : Inserted ins xs ys) (right : Inserted ins xs' ys') :
    Inserted ins (xs ++ xs') (ys ++ ys') := by
  induction left with
  | nil => exact right
  | keep free same _ ih => exact .keep free same ih
  | put put same _ ih => exact .put put same ih

theorem flatten {parts parts' : List (List Line)}
    (each : List.Forall₂ (Inserted ins) parts parts') :
    Inserted ins parts.flatten parts'.flatten := by
  induction each with
  | nil => exact .nil
  | cons first _ ih => exact first.append ih

theorem any_eq (overlooks : Overlooks p) (inserted : Inserted ins xs ys) :
    ys.any p = xs.any p := by
  induction inserted with
  | nil => rfl
  | keep free same _ ih => rw [List.any_cons, List.any_cons, ih, overlooks.eq_of_content same]
  | put put same _ ih =>
      obtain ⟨own, added, found⟩ := Insertion.false_of_put overlooks put same
      rw [List.any_cons, List.any_cons, List.any_cons, ih, own, added, found, Bool.false_or]

theorem getLast?_any_eq (overlooks : Overlooks p) (inserted : Inserted ins xs ys) :
    ys.getLast?.any p = xs.getLast?.any p := by
  induction inserted with
  | nil => rfl
  | keep free same rest ih =>
      cases rest with
      | nil => simpa using overlooks.eq_of_content same
      | keep _ _ _ => simpa only [List.getLast?_cons_cons] using ih
      | put _ _ _ => simpa only [List.getLast?_cons_cons] using ih
  | put put same rest ih =>
      cases rest with
      | nil => simpa using overlooks.eq_of_content same
      | keep _ _ _ => simpa only [List.getLast?_cons_cons] using ih
      | put _ _ _ => simpa only [List.getLast?_cons_cons] using ih

theorem span (overlooks : Overlooks p) (inserted : Inserted ins xs ys) :
    Inserted ins (xs.takeWhile (!p ·)) (ys.takeWhile (!p ·)) ∧
      Inserted ins (xs.dropWhile (!p ·)) (ys.dropWhile (!p ·)) := by
  induction inserted with
  | nil => exact ⟨.nil, .nil⟩
  | @keep line line' rest rest' free same behind ih =>
      have found : p line' = p line := overlooks.eq_of_content same
      rw [List.takeWhile_cons, List.dropWhile_cons, List.takeWhile_cons, List.dropWhile_cons, found]
      cases p line with
      | true => exact ⟨.nil, .keep free same behind⟩
      | false => exact ⟨.keep free same ih.1, ih.2⟩
  | @put line new line' rest rest' put same behind ih =>
      obtain ⟨own, added, found⟩ := Insertion.false_of_put overlooks put same
      simp only [List.takeWhile_cons, List.dropWhile_cons, own, added, found, Bool.not_false, if_true]
      exact ⟨.put put same ih.1, ih.2⟩

theorem runs (overlooks : Overlooks p) (inserted : Inserted ins xs ys) :
    List.Forall₂ (Inserted ins) (AsmLayout.runs p xs) (AsmLayout.runs p ys) := by
  fun_induction AsmLayout.runs p xs generalizing ys with
  | case1 =>
      cases inserted
      rw [AsmLayout.runs]
      exact .nil
  | case2 line rest ih =>
      cases inserted with
      | keep free same behind =>
          obtain ⟨own, later⟩ := behind.span overlooks
          rw [AsmLayout.runs]
          exact .cons (.keep free same own) (ih later)
      | @put _ new line' _ rest' put same behind =>
          obtain ⟨own, later⟩ := behind.span overlooks
          obtain ⟨-, -, absent⟩ := Insertion.false_of_put overlooks put same
          rw [AsmLayout.runs, List.takeWhile_cons_of_pos (by simp [absent]),
            List.dropWhile_cons_of_pos (by simp [absent])]
          exact .cons (.put put same own) (ih later)

end Inserted

end AsmLayout
