import AsmLayout.Proofs.Checked.Buffer
import AsmLayout.Section.Allocation

/-! # Padding allocation calls by positions

The positions of the calls are collected first, and the adjustments inserted from the last one to
the first, so that no position has moved by the time it is used.
-/

namespace AsmLayout.Checked

variable {G : Type} [Random.Generator G]

/-- The positions of the lines with a property, in order. -/
def positions (property : Line → Bool) (lines : List Line) : List Nat :=
  (List.range lines.length).filter fun position => lines[position]?.any property

/-- Put an adjustment before the line at a position. -/
def padCallAt (range : Random.Interval) (width : PointerWidth)
    (state : (List Line × List PaddedCall) × G) (position : Nat) :
    Except Fault ((List Line × List PaddedCall) × G) := do
  let ((lines, calls), g) := state
  let (amount, g) ← draw range g
  let line ← get lines position
  let lines ← insertBefore lines position (line.withContent (width.sizeAdjustment amount))
  return ((lines, ⟨line.number, amount⟩ :: calls), g)

def padCalls (range : Random.Interval) (width : PointerWidth) (lines : List Line) (g : G) :
    Except Fault ((List Line × List PaddedCall) × G) :=
  (positions Line.isAllocationCall lines).reverse.foldlM (padCallAt range width) ((lines, []), g)

def padAllocations (range : Random.Interval) (width : PointerWidth) (sec : Section) (g : G) :
    Except Fault ((Section × List PaddedCall) × G) :=
  if range.isEmpty || (positions Line.isAllocationCall sec.lines).isEmpty then .ok ((sec, []), g)
  else do
    let ((lines, calls), g) ← padCalls range width sec.lines g
    return ((sec.edit lines, calls), g)

theorem positions_cons (property : Line → Bool) (line : Line) (rest : List Line) :
    positions property (line :: rest) =
      (if property line then [0] else []) ++ (positions property rest).map (· + 1) := by
  rw [positions, List.length_cons, List.range_succ_eq_map, List.filter_cons, List.filter_map]
  simp only [List.getElem?_cons_zero, Option.any_some]
  split <;> rfl

theorem isEmpty_positions (property : Line → Bool) (lines : List Line) :
    (positions property lines).isEmpty = !lines.any property := by
  induction lines with
  | nil => rfl
  | cons line rest ih =>
      rw [positions_cons, List.any_cons, Bool.not_or, ← ih]
      cases property line <;> simp

/-- A state with one more line in front of the buffer. -/
def behind (line : Line) (state : (List Line × List PaddedCall) × G) :
    (List Line × List PaddedCall) × G :=
  ((line :: state.1.1, state.1.2), state.2)

theorem padCallAt_behind (range : Random.Interval) (width : PointerWidth) (line : Line)
    (state : (List Line × List PaddedCall) × G) (position : Nat) :
    padCallAt range width (behind line state) (position + 1) =
      (padCallAt range width state position).map (behind line) := by
  obtain ⟨⟨lines, calls⟩, g⟩ := state
  simp only [padCallAt, behind, bind, Except.bind]
  cases draw range g with
  | error fault => rfl
  | ok drawn =>
      rw [get_succ]
      cases get lines position with
      | error fault => rfl
      | ok call =>
          simp only [insertBefore_succ]
          cases insertBefore lines position
            (call.withContent (width.sizeAdjustment drawn.1)) <;> rfl

theorem foldlM_behind (range : Random.Interval) (width : PointerWidth) (line : Line)
    (places : List Nat) (state : (List Line × List PaddedCall) × G) :
    (places.map (· + 1)).foldlM (padCallAt range width) (behind line state) =
      (places.foldlM (padCallAt range width) state).map (behind line) := by
  induction places generalizing state with
  | nil => rfl
  | cons place places ih =>
      rw [List.map_cons, List.foldlM_cons, List.foldlM_cons, padCallAt_behind]
      cases padCallAt range width state place with
      | error fault => rfl
      | ok next => exact ih next

/-- No position that is padded is outside the lines, and no range that is drawn from is empty. -/
theorem padCalls_eq {range : Random.Interval} (filled : range.isEmpty = false)
    (width : PointerWidth) (lines : List Line) (g : G) :
    padCalls range width lines g = .ok (AsmLayout.padCalls range width lines g) := by
  induction lines with
  | nil => rfl
  | cons line rest ih =>
      rw [padCalls] at ih ⊢
      rw [positions_cons, List.reverse_append, ← List.map_reverse, List.foldlM_append]
      change (do
        let state ← ((positions Line.isAllocationCall rest).reverse.map (· + 1)).foldlM
          (padCallAt range width) (behind line ((rest, []), g))
        (if line.isAllocationCall then [0] else []).reverse.foldlM (padCallAt range width) state) = _
      rw [foldlM_behind, ih, AsmLayout.padCalls]
      cases line.isAllocationCall with
      | false => rfl
      | true =>
          obtain ⟨⟨lines, calls⟩, g⟩ := AsmLayout.padCalls range width rest g
          have there := get_append [] line lines
          have inserted := fun new => insertBefore_append [] line new lines
          rw [List.nil_append, List.length_nil] at there inserted
          simp only [Except.map, behind, bind, Except.bind, if_true, List.reverse_singleton,
            List.foldlM_cons, List.foldlM_nil, padCallAt, draw_of_filled filled, there, inserted]
          rfl

theorem padAllocations_eq (range : Random.Interval) (width : PointerWidth) (sec : Section) (g : G) :
    padAllocations range width sec g = .ok (sec.padAllocations range width g) := by
  rw [padAllocations, Section.padAllocations, isEmpty_positions]
  split
  next => rfl
  next active =>
    have filled : range.isEmpty = false := by
      cases empty : range.isEmpty with
      | true => rw [empty] at active; exact absurd rfl active
      | false => rfl
    rw [padCalls_eq filled]
    rfl

end AsmLayout.Checked
