import AsmLayout.Proofs.Checked.Frame

/-! # Padding the functions of a section by positions

A cursor goes from extent to extent over a buffer that grows under it. Every function is padded on a
copy of its lines, which then takes their place, and the cursor moves behind it.
-/

namespace AsmLayout.Checked

/-- A section whose functions are being padded. -/
structure Sweeping where
  lines : List Line
  outcomes : List FrameOutcome
  cursor : Nat

/-- Pad the first extent from the cursor on. -/
def sweepNext (dialect : Dialect) (amount : Nat) (state : Sweeping) :
    Except Fault (Sweeping ⊕ List Line × List FrameOutcome) :=
  match Extent.next? state.lines state.cursor with
  | none => .ok (.inr (state.lines, state.outcomes))
  | some (.orphan position) => do
    let line ← get state.lines position
    return .inl { state with
      outcomes := state.outcomes ++ [.skipped (.missingLabel line.number)]
      cursor := position + 1 }
  | some (.function start stop) => do
    let body ← slice state.lines start stop
    match ← padFunction dialect amount body with
    | .ok padded =>
      return .inl {
        lines := ← splice state.lines start stop padded.lines
        outcomes := state.outcomes ++ [.padded (Frame.functionName body) amount padded.returns]
        cursor := start + padded.lines.length }
    | .error reason =>
      return .inl { state with
        outcomes := state.outcomes ++ [.skipped reason]
        cursor := stop }

def padFrames (amount : Nat) (sec : Section) : Except Fault (Section × List FrameOutcome) := do
  let aligned ← subtract amount (amount % stackAlignment)
  let (lines, outcomes) ←
    loop (sweepNext sec.dialect aligned) (sec.lines.length + 1) ⟨sec.lines, [], 0⟩
  return (sec.edit lines,
    if outcomes.isEmpty then [.skipped (.missingLabel sec.firstNumber)] else outcomes)

section

variable {buffer : List Line} {cursor start stop : Nat}

theorem sweepNext_of_orphan {position : Nat}
    (next : Extent.next? buffer cursor = some (.orphan position)) (dialect : Dialect) (amount : Nat)
    (outcomes : List FrameOutcome) :
    sweepNext dialect amount ⟨buffer, outcomes, cursor⟩ = .ok (.inl ⟨buffer,
      outcomes ++ [.skipped (.missingLabel (Extent.numberAt buffer position))], position + 1⟩) := by
  obtain ⟨-, -, inside⟩ : cursor ≤ position ∧ position < position + 1 ∧
      position + 1 ≤ buffer.length := Extent.bounds_of_next? next
  have there : buffer[position]? = some buffer[position] := List.getElem?_eq_getElem inside
  simp only [sweepNext, next, get, there, Extent.numberAt, bind, Except.bind]
  rfl

/-- The lines of a function are sliced out and their place is spliced into, both within the buffer. -/
theorem sweepNext_of_function (next : Extent.next? buffer cursor = some (.function start stop))
    (dialect : Dialect) (amount : Nat) (outcomes : List FrameOutcome) :
    let body := (buffer.drop start).take (stop - start)
    sweepNext dialect amount ⟨buffer, outcomes, cursor⟩ = .ok (.inl
      (match Frame.pad dialect amount body with
      | .ok padded => ⟨buffer.take start ++ padded.lines ++ buffer.drop stop,
          outcomes ++ [.padded (Frame.functionName body) amount padded.returns],
          start + padded.lines.length⟩
      | .error reason => ⟨buffer, outcomes ++ [.skipped reason], stop⟩)) := by
  obtain ⟨-, within, inside⟩ : cursor ≤ start ∧ start < stop ∧ stop ≤ buffer.length :=
    Extent.bounds_of_next? next
  have bounds : start ≤ stop ∧ stop ≤ buffer.length := ⟨Nat.le_of_lt within, inside⟩
  simp only [sweepNext, next, slice, splice, bounds, and_self, if_true, padFunction_eq, bind,
    Except.bind]
  cases Frame.pad dialect amount ((buffer.drop start).take (stop - start)) <;> rfl

end

/-- Every round leaves fewer lines behind the cursor, though the buffer may have grown. -/
theorem loop_sweepNext (dialect : Dialect) (amount : Nat) (buffer : List Line)
    (outcomes : List FrameOutcome) (cursor : Nat) {rounds : Nat}
    (enough : buffer.length - cursor < rounds) :
    loop (sweepNext dialect amount) rounds ⟨buffer, outcomes, cursor⟩ =
      .ok ((Extent.sweep dialect amount buffer cursor).1,
        outcomes ++ (Extent.sweep dialect amount buffer cursor).2) := by
  fun_induction Extent.sweep dialect amount buffer cursor generalizing outcomes rounds with
  | case1 buffer cursor next =>
      refine loop_of_result ?_ (Nat.zero_lt_of_lt enough)
      simp only [sweepNext, next, List.append_nil]
  | case2 buffer cursor position next lines after swept ih =>
      have bounds := Extent.bounds_of_next? next
      simp only [Extent.start, Extent.stop] at bounds
      have goes := sweepNext_of_orphan next dialect amount outcomes
      rw [loop_of_next goes (Nat.zero_lt_of_lt enough), ih _ (by omega), swept, List.append_assoc]
      rfl
  | case3 buffer cursor start stop next body padded pads lines after swept ih =>
      have bounds := Extent.bounds_of_next? next
      simp only [Extent.start, Extent.stop] at bounds
      have goes := sweepNext_of_function next dialect amount outcomes
      simp only [show Frame.pad dialect amount ((buffer.drop start).take (stop - start)) =
        .ok padded from pads] at goes
      rw [loop_of_next goes (Nat.zero_lt_of_lt enough), ih _ ?_, swept, List.append_assoc]
      · rfl
      · simp only [List.length_append, List.length_take, List.length_drop]
        omega
  | case4 buffer cursor start stop next body reason fails lines after swept ih =>
      have bounds := Extent.bounds_of_next? next
      simp only [Extent.start, Extent.stop] at bounds
      have goes := sweepNext_of_function next dialect amount outcomes
      simp only [show Frame.pad dialect amount ((buffer.drop start).take (stop - start)) =
        .error reason from fails] at goes
      rw [loop_of_next goes (Nat.zero_lt_of_lt enough), ih _ (by omega), swept, List.append_assoc]
      rfl

theorem padFrames_eq (amount : Nat) (sec : Section) :
    padFrames amount sec = .ok (sec.padFrames amount) := by
  have aligned : subtract amount (amount % stackAlignment) = .ok (alignDown amount) :=
    subtract_of_le (Nat.mod_le ..)
  have swept := loop_sweepNext sec.dialect (alignDown amount) sec.lines [] 0
    (show _ < sec.lines.length + 1 from Nat.lt_succ_self _)
  rw [Section.padFrames_eq_sweepFrames, padFrames, aligned, Section.sweepFrames]
  simp only [bind, Except.bind, swept]
  rfl

end AsmLayout.Checked
