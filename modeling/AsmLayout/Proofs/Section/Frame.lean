import AsmLayout.Proofs.Section.Reshaping
import AsmLayout.Section.Frame

/-! # Padded frames keep landmarks

What a padded function gains stands beside its frame push and its frame pops, or in the place of a
leave; all of these are instructions. Cutting a section into functions loses no line, and a function
that is skipped keeps its own.
-/

namespace AsmLayout

namespace Line

theorem isInstruction_of_isFramePush {line : Line} (push : line.isFramePush = true) :
    line.isInstruction = true := by
  apply isInstruction_of_isStatementWith _ push
  intro statement pushed
  simp only [Bool.and_eq_true, beq_iff_eq] at pushed
  rw [pushed.1]
  decide

theorem isInstruction_of_isFramePop {line : Line} (pop : line.isFramePop = true) :
    line.isInstruction = true := by
  apply isInstruction_of_isStatementWith _ pop
  intro statement popped
  simp only [Bool.and_eq_true, beq_iff_eq] at popped
  rw [popped.1]
  decide

theorem head?_words_of_isLeave {line : Line} (leave : line.isLeave = true) :
    line.isStatement = true ∧
      (line.words.head? = some "leave".toList ∨ line.words.head? = some "leaveq".toList) := by
  unfold isLeave mnemonic? at leave
  cases statement : line.isStatement with
  | false => simp [statement] at leave
  | true =>
      refine ⟨rfl, ?_⟩
      cases first : line.words.head? with
      | none => simp [statement, first] at leave
      | some word =>
          simp only [statement, first, if_true, Option.map_some, Bool.or_eq_true, beq_iff_eq,
            Option.some.injEq] at leave
          rw [← String.toList_ofList (l := word)]
          exact leave.imp (congrArg (some ∘ String.toList)) (congrArg (some ∘ String.toList))

theorem isInstruction_of_isLeave {line : Line} (leave : line.isLeave = true) :
    line.isInstruction = true := by
  obtain ⟨statement, first | first⟩ := head?_words_of_isLeave leave
  · exact isInstruction_of_isStatement statement first (by decide)
  · exact isInstruction_of_isStatement statement first (by decide)

end Line

namespace Frame

theorem spelling_growth (amount : Nat) :
    (growth amount).toList =
      '\t' :: ("subq".toList ++ ' ' :: '$' :: ((toString amount).toList ++ ", %rsp".toList)) := by
  simp [growth, toString]

theorem spelling_release (amount : Nat) :
    (release amount).toList =
      '\t' :: ("addq".toList ++ ' ' :: '$' :: ((toString amount).toList ++ ", %rsp".toList)) := by
  simp [release, toString]

theorem isInstruction_growth (amount number : Nat) :
    (⟨growth amount, number⟩ : Line).isInstruction = true :=
  Line.isInstruction_of_spelling (spelling_growth amount) (by decide) (by decide)

theorem isInstruction_release (amount number : Nat) :
    (⟨release amount, number⟩ : Line).isInstruction = true :=
  Line.isInstruction_of_spelling (spelling_release amount) (by decide) (by decide)

theorem spelling_restore :
    "\tmovq %rbp, %rsp".toList = '\t' :: ("movq".toList ++ ' ' :: "%rbp, %rsp".toList) := by
  decide

theorem isInstruction_restore (number : Nat) :
    (⟨"\tmovq %rbp, %rsp", number⟩ : Line).isInstruction = true :=
  Line.isInstruction_of_spelling spelling_restore (by decide) (by decide)

theorem isInstruction_pop (number : Nat) :
    (⟨"\tpopq %rbp", number⟩ : Line).isInstruction = true := by
  have spelling : "\tpopq %rbp".toList = '\t' :: ("popq".toList ++ ' ' :: "%rbp".toList) := by
    decide
  exact Line.isInstruction_of_spelling spelling (by decide) (by decide)

theorem expandLeaves_keepsLandmarks (position : Nat) (lines : List Line) :
    KeepsLandmarks lines (expandLeaves position lines) := by
  fun_induction expandLeaves position lines with
  | case1 => exact .refl []
  | case2 position line rest leave ih =>
      exact (KeepsLandmarks.of_instructions (Line.isInstruction_of_isLeave leave)
        (isInstruction_restore _) (isInstruction_pop _)).append ih
  | case3 position line rest _ ih => exact ih.cons line

theorem eq_of_splitAtFirst? {property : Line → Bool} {lines before after : List Line} {found : Line}
    (split : splitAtFirst? property lines = some (before, found, after)) :
    lines = before ++ found :: after ∧ property found = true := by
  fun_induction splitAtFirst? property lines generalizing before with
  | case1 => contradiction
  | case2 line rest holds =>
      cases split
      exact ⟨rfl, holds⟩
  | case3 => contradiction
  | case4 line rest _ _ before' found' after' splits ih =>
      cases split
      obtain ⟨whole, holds⟩ := ih splits
      exact ⟨by rw [whole, List.cons_append], holds⟩
  | case5 => contradiction

theorem eq_of_splitAtLast? {property : Line → Bool} {lines before after : List Line} {found : Line}
    (split : splitAtLast? property lines = some (before, found, after)) :
    lines = before ++ found :: after ∧ property found = true := by
  fun_induction splitAtLast? property lines generalizing before with
  | case1 => contradiction
  | case2 line rest before' found' after' splits ih =>
      cases split
      obtain ⟨whole, holds⟩ := ih splits
      exact ⟨by rw [whole, List.cons_append], holds⟩
  | case3 line rest _ holds =>
      cases split
      exact ⟨rfl, holds⟩
  | case4 => contradiction

theorem patchReturns_keepsLandmarks {function : String} {amount returns : Nat}
    {lines patched : List Line}
    (patches : patchReturns function amount lines = .ok (patched, returns)) :
    KeepsLandmarks lines patched := by
  fun_induction patchReturns function amount lines generalizing patched returns with
  | case1 lines =>
      cases patches
      exact .refl lines
  | case2 => contradiction
  | case3 => contradiction
  | case4 lines stretch ret rest first before pop after last patched' returns' patches' ih =>
      cases patches
      obtain ⟨whole, -⟩ := eq_of_splitAtFirst? first
      obtain ⟨stretched, popped⟩ := eq_of_splitAtLast? last
      have released := KeepsLandmarks.of_instructions (Line.isInstruction_of_isFramePop popped)
        (isInstruction_release amount pop.number) (Line.isInstruction_of_isFramePop popped)
      rw [whole, stretched]
      exact ((KeepsLandmarks.refl before).append (released.append (.refl after))).append
        ((ih patches').cons ret)

theorem eq_of_pad {dialect : Dialect} {amount : Nat} {body : List Line} {padded : Padded}
    (pads : pad dialect amount body = .ok padded) :
    ∃ before push rest patched returns,
      splitAtFirst? Line.isFramePush (expandLeaves 0 body) = some (before, push, rest) ∧
      patchReturns (functionName body) amount rest = .ok (patched, returns) ∧
      padded = ⟨before ++ push :: push.withContent (growth amount) :: patched, returns⟩ := by
  simp only [pad] at pads
  split at pads
  · contradiction
  · split at pads
    · contradiction
    · rename_i before push rest prologue
      split at pads
      · contradiction
      · rename_i patched returns patches
        split at pads
        · contradiction
        · cases pads
          exact ⟨before, push, rest, patched, returns, prologue, patches, rfl⟩

theorem pad_keepsLandmarks {dialect : Dialect} {amount : Nat} {body : List Line} {padded : Padded}
    (pads : pad dialect amount body = .ok padded) : KeepsLandmarks body padded.lines := by
  obtain ⟨before, push, rest, patched, returns, prologue, patches, rfl⟩ := eq_of_pad pads
  obtain ⟨expanded, pushed⟩ := eq_of_splitAtFirst? prologue
  have leaves := expandLeaves_keepsLandmarks 0 body
  have grown := KeepsLandmarks.of_instructions (Line.isInstruction_of_isFramePush pushed)
    (Line.isInstruction_of_isFramePush pushed) (isInstruction_growth amount push.number)
  rw [expanded] at leaves
  exact leaves.trans ((KeepsLandmarks.refl before).append
    (grown.append (patchReturns_keepsLandmarks patches)))

end Frame

namespace FramePart

def lines : FramePart → List Line
  | outside line => [line]
  | orphan line => [line]
  | function body => body

theorem throughEnd_append (lines : List Line) :
    (throughEnd lines).1 ++ (throughEnd lines).2 = lines := by
  fun_induction throughEnd lines with
  | case1 => rfl
  | case2 => rfl
  | case3 line rest _ body after ends ih =>
      rw [ends] at ih
      rw [List.cons_append, ih]

theorem flatMap_cut (lines : List Line) : (cut lines).flatMap FramePart.lines = lines := by
  fun_induction cut lines with
  | case1 => rfl
  | case2 line rest _ ih => rw [List.flatMap_cons, ih, lines, List.singleton_append]
  | case3 line rest _ _ ih => rw [List.flatMap_cons, ih, lines, List.cons_append, throughEnd_append]
  | case4 line rest _ _ ih => rw [List.flatMap_cons, ih, lines, List.singleton_append]

theorem pad_keepsLandmarks (dialect : Dialect) (amount : Nat) (part : FramePart) :
    KeepsLandmarks part.lines (part.pad dialect amount).1 := by
  cases part with
  | outside line => exact .refl [line]
  | orphan line => exact .refl [line]
  | function body =>
      cases pads : Frame.pad dialect amount body with
      | ok padded =>
          rw [FramePart.pad, pads]
          exact Frame.pad_keepsLandmarks pads
      | error reason =>
          rw [FramePart.pad, pads]
          exact .refl body

end FramePart

theorem Section.padFrames_reshaped (amount : Nat) (sec : Section) :
    Reshaped sec (sec.padFrames amount).1 := by
  have each : List.Forall₂ (fun part padded => KeepsLandmarks part.lines padded.1)
      (FramePart.cut sec.lines)
      ((FramePart.cut sec.lines).map (FramePart.pad sec.dialect (alignDown amount))) := by
    rw [List.forall₂_map_right_iff, List.forall₂_same]
    intro part _
    exact part.pad_keepsLandmarks sec.dialect (alignDown amount)
  have keeps := KeepsLandmarks.flatMap each
  rw [FramePart.flatMap_cut] at keeps
  exact reshaped_edit keeps

end AsmLayout
