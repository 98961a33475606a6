import AsmLayout.Dialect
import AsmLayout.Proofs.Instruction
import Mathlib.Data.List.Forall2

/-! # Landmarks

Boundaries, labels and markers are told by lines that are not instructions. An edit that puts
instructions in the place of instructions, or brings the lines behind the first into another order,
leaves all of them in the run, and what opens the run as well.
-/

namespace AsmLayout

/-- The texts of the lines that are not instructions, in order. -/
def landmarks (lines : List Line) : List String :=
  (lines.filter (!·.isInstruction)).map (·.content)

theorem landmarks_append (xs ys : List Line) :
    landmarks (xs ++ ys) = landmarks xs ++ landmarks ys := by
  rw [landmarks, List.filter_append, List.map_append, landmarks, landmarks]

theorem landmarks_cons (line : Line) (rest : List Line) :
    landmarks (line :: rest) = landmarks [line] ++ landmarks rest :=
  landmarks_append [line] rest

theorem landmarks_singleton (line : Line) :
    landmarks [line] = if line.isInstruction then [] else [line.content] := by
  cases instruction : line.isInstruction <;> simp [landmarks, instruction]

theorem landmarks_perm {xs ys : List Line} (perm : xs.Perm ys) :
    (landmarks xs).Perm (landmarks ys) :=
  (perm.filter _).map _

theorem landmarks_renumber (start : Nat) (lines : List Line) :
    landmarks (Line.renumber start lines) = landmarks lines := by
  induction lines generalizing start with
  | nil => rfl
  | cons line rest ih =>
      rw [Line.renumber, landmarks_cons, ih, landmarks_singleton, landmarks_cons line,
        landmarks_singleton line]
      rfl

/-- A property of lines that asks for their text alone and holds of no instruction. -/
structure TellsLandmark (property : Line → Bool) : Prop where
  numberless : ∀ line number, property { line with number } = property line
  no_instruction : ∀ line, line.isInstruction = true → property line = false

namespace TellsLandmark

variable {p q : Line → Bool}

theorem or (left : TellsLandmark p) (right : TellsLandmark q) :
    TellsLandmark fun line => p line || q line where
  numberless line number := by rw [left.numberless, right.numberless]
  no_instruction line instruction := by
    rw [left.no_instruction line instruction, right.no_instruction line instruction, Bool.or_false]

theorem any_eq (tells : TellsLandmark p) (lines : List Line) :
    lines.any p = (landmarks lines).any fun content => p ⟨content, 0⟩ := by
  induction lines with
  | nil => rfl
  | cons line rest ih =>
      rw [landmarks_cons, List.any_cons, List.any_append, ← ih]
      congr 1
      rw [landmarks_singleton]
      split
      · rename_i instruction
        rw [tells.no_instruction line instruction, List.any_nil]
      · rw [List.any_cons, List.any_nil, Bool.or_false, ← tells.numberless line 0]

theorem any_eq_of_contents (tells : TellsLandmark p) {xs ys : List Line}
    (same : xs.map (·.content) = ys.map (·.content)) : xs.any p = ys.any p := by
  have textual (lines : List Line) :
      lines.any p = (lines.map (·.content)).any fun content => p ⟨content, 0⟩ := by
    rw [List.any_map]
    congr 1
    funext line
    exact (tells.numberless line 0).symm
  rw [textual, textual ys, same]

theorem isFunctionLabel : TellsLandmark Line.isFunctionLabel where
  numberless _ _ := rfl
  no_instruction line instruction := by
    simp [Line.isFunctionLabel, Line.label?, Line.isLabel_of_isInstruction instruction]

theorem isSegment : TellsLandmark Line.isSegment where
  numberless _ _ := rfl
  no_instruction line instruction := by
    have undirected : ∀ name ∈ Line.segmentNames,
        ¬(line.startsWith ("." ++ name) || line.startsWith (".section ." ++ name)) = true := by
      intro name _
      rw [Line.startsWith_of_isInstruction instruction (String.toList_append ..) (by decide),
        Line.startsWith_of_isInstruction instruction (String.toList_append ..) (by decide)]
      decide
    rw [Line.isSegment, Line.isSegmentOf, List.any_eq_false.mpr undirected, Bool.and_false]

theorem splitsBefore (dialect : Dialect) : TellsLandmark dialect.splitsBefore where
  numberless _ _ := by cases dialect <;> rfl
  no_instruction line instruction := by
    cases dialect with
    | libfirm => exact Line.isBlank_of_isInstruction instruction
    | gcc =>
        have other : (line.normalized == ".text".toList) = false := by
          apply beq_eq_false_iff_ne.mpr
          intro bare
          have starts : line.startsWith ".text" = false :=
            Line.startsWith_of_isInstruction instruction rfl (by decide)
          rw [Line.startsWith, bare] at starts
          exact absurd starts (by decide)
        rw [Dialect.splitsBefore, other, isSegment.no_instruction line instruction, Bool.or_false]

theorem isCallFrame : TellsLandmark Dialect.isCallFrame where
  numberless _ _ := rfl
  no_instruction _ instruction := Line.startsWith_of_isInstruction instruction rfl (by decide)

theorem isBeginMarker : TellsLandmark Dialect.isBeginMarker where
  numberless _ _ := rfl
  no_instruction line instruction := by
    obtain ⟨c, cs, rest, spelled, letter, -⟩ := Line.words_of_isInstruction instruction
    rw [Dialect.isBeginMarker]
    split
    · rename_i tail marked
      have solid : ¬Text.isBlank '#' = true := by decide
      rw [Line.words, marked, Text.words, if_neg solid] at spelled
      injection spelled with word _
      injection word with symbol _
      rw [← symbol] at letter
      exact absurd letter (by decide)
    · rfl

theorem isFunctionMarker (dialect : Dialect) : TellsLandmark dialect.isFunctionMarker where
  numberless _ _ := by cases dialect <;> rfl
  no_instruction line instruction := by
    cases dialect with
    | gcc => rfl
    | libfirm => exact isBeginMarker.no_instruction line instruction

end TellsLandmark

/-- An edit of a run that keeps its landmarks, and the one that opens it in its place. -/
structure KeepsLandmarks (before after : List Line) : Prop where
  isEmpty : after.isEmpty = before.isEmpty
  opening : landmarks after.head?.toList = landmarks before.head?.toList
  all : (landmarks after).Perm (landmarks before)

namespace KeepsLandmarks

variable {before after xs xs' ys ys' : List Line} {p : Line → Bool}

theorem refl (lines : List Line) : KeepsLandmarks lines lines := ⟨rfl, rfl, .refl _⟩

theorem trans (first : KeepsLandmarks before xs) (second : KeepsLandmarks xs after) :
    KeepsLandmarks before after :=
  ⟨second.isEmpty.trans first.isEmpty, second.opening.trans first.opening,
    second.all.trans first.all⟩

theorem append (left : KeepsLandmarks xs xs') (right : KeepsLandmarks ys ys') :
    KeepsLandmarks (xs ++ ys) (xs' ++ ys') where
  isEmpty := by
    cases xs with
    | nil =>
        rw [List.isEmpty_iff.mp left.isEmpty]
        exact right.isEmpty
    | cons x rest =>
        cases xs' with
        | nil => exact absurd left.isEmpty (by simp)
        | cons x' rest' => rfl
  opening := by
    cases xs with
    | nil =>
        rw [List.isEmpty_iff.mp left.isEmpty]
        exact right.opening
    | cons x rest =>
        cases xs' with
        | nil => exact absurd left.isEmpty (by simp)
        | cons x' rest' => exact left.opening
  all := by
    rw [landmarks_append, landmarks_append]
    exact left.all.append right.all

theorem cons (line : Line) (rest : KeepsLandmarks before after) :
    KeepsLandmarks (line :: before) (line :: after) :=
  (refl [line]).append rest

theorem of_perm (line : Line) (perm : after.Perm before) :
    KeepsLandmarks (line :: before) (line :: after) :=
  ⟨rfl, rfl, landmarks_perm (perm.cons line)⟩

theorem of_instructions {line first second : Line} (old : line.isInstruction = true)
    (new : first.isInstruction = true) (last : second.isInstruction = true) :
    KeepsLandmarks [line] [first, second] := by
  have gone : landmarks [line] = [] := by rw [landmarks_singleton, if_pos old]
  have unseen : landmarks [first] = [] := by rw [landmarks_singleton, if_pos new]
  have both : landmarks [first, second] = [] := by
    rw [landmarks_cons, unseen, landmarks_singleton, if_pos last, List.append_nil]
  exact ⟨rfl, unseen.trans gone.symm, by rw [both, gone]⟩

theorem renumber (start : Nat) (lines : List Line) :
    KeepsLandmarks lines (Line.renumber start lines) where
  isEmpty := by cases lines <;> rfl
  opening := by
    cases lines with
    | nil => rfl
    | cons line rest => exact landmarks_renumber start [line]
  all := by rw [landmarks_renumber]

theorem flatMap {α β : Type} {f : α → List Line} {g : β → List Line} {parts : List α}
    {edited : List β}
    (each : List.Forall₂ (fun part part' => KeepsLandmarks (f part) (g part')) parts edited) :
    KeepsLandmarks (parts.flatMap f) (edited.flatMap g) := by
  induction each with
  | nil => exact refl []
  | cons first _ ih => exact first.append ih

theorem any_eq (keeps : KeepsLandmarks before after) (tells : TellsLandmark p) :
    after.any p = before.any p := by
  rw [tells.any_eq, tells.any_eq before]
  exact keeps.all.any_eq

theorem head?_any_eq (keeps : KeepsLandmarks before after) (tells : TellsLandmark p) :
    after.head?.any p = before.head?.any p := by
  have listed : ∀ line? : Option Line, line?.any p = line?.toList.any p := by
    intro line?
    cases line? <;> simp
  rw [listed, listed before.head?, tells.any_eq, keeps.opening, ← tells.any_eq]

theorem tail_any_eq (keeps : KeepsLandmarks before after) (tells : TellsLandmark p) :
    after.tail.any p = before.tail.any p := by
  cases before with
  | nil => rw [List.isEmpty_iff.mp keeps.isEmpty]
  | cons line rest =>
      cases after with
      | nil => exact absurd keeps.isEmpty (by simp)
      | cons line' rest' =>
          have opening : landmarks [line'] = landmarks [line] := keeps.opening
          have all := keeps.all
          rw [landmarks_cons, landmarks_cons line, opening, List.perm_append_left_iff] at all
          rw [List.tail_cons, List.tail_cons, tells.any_eq, tells.any_eq rest]
          exact all.any_eq

end KeepsLandmarks

end AsmLayout
