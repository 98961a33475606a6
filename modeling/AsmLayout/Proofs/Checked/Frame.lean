import AsmLayout.Proofs.Checked.Buffer
import AsmLayout.Proofs.Section.Patching

/-! # Padding a function by positions

Leaves are written out, a growth is put behind the first frame push, and a cursor goes from return to
return, looking back for the frame pop to release in front of. Then every frame pop is looked at
together with the line in front of it.
-/

namespace AsmLayout.Checked

/-- Write a leave at the cursor out, and go on behind it. -/
def expandNext (state : List Line × Nat) : Except Fault (List Line × Nat ⊕ List Line) := do
  let (lines, cursor) := state
  if cursor < lines.length then
    let line ← get lines cursor
    if line.isLeave then
      let lines ← set lines cursor (line.withContent "\tmovq %rbp, %rsp")
      let lines ← insertAfter lines cursor ⟨"\tpopq %rbp", cursor + 1⟩
      return .inl (lines, cursor + 2)
    else return .inl (lines, cursor + 1)
  else return .inr lines

def expandLeaves (lines : List Line) : Except Fault (List Line) :=
  loop expandNext (lines.length + 1) (lines, 0)

/-- The first position from a cursor on with a property, if no function end comes before it. -/
def seek (property : Line → Bool) (lines : List Line) (cursor : Nat) : Option Nat :=
  match Extent.firstFrom? (fun line => property line || line.isFunctionEnd) lines cursor with
  | some position => if lines[position]?.any property then some position else none
  | none => none

/-- The last position with a property from a cursor on and before `stop`. -/
def lastBefore (property : Line → Bool) (lines : List Line) (cursor : Nat) :
    (stop : Nat) → Except Fault (Option Nat)
  | 0 => .ok none
  | position + 1 =>
    if position < cursor then .ok none
    else do
      if property (← get lines position) then return some position
      else lastBefore property lines cursor position

/-- A function whose returns are being patched. -/
structure Patching where
  lines : List Line
  returns : Nat
  cursor : Nat

/-- Release in front of the frame pop of the first return from the cursor on. -/
def patchNext (function : String) (amount : Nat) (state : Patching) :
    Except Fault (Patching ⊕ Except SkipReason (List Line × Nat)) :=
  match seek Line.isReturn state.lines state.cursor with
  | none => .ok (.inr (.ok (state.lines, state.returns)))
  | some ret => do
    match ← lastBefore Line.isFramePop state.lines state.cursor ret with
    | none =>
      return .inr (.error (.missingEpilogue function (← get state.lines ret).number))
    | some position =>
      let pop ← get state.lines position
      return .inl {
        lines := ← insertBefore state.lines position (pop.withContent (Frame.release amount))
        returns := state.returns + 1
        cursor := ret + 2 }

/-- Look at the line at a position; a frame pop has to follow a release. -/
def inspectNext (amount : Nat) (lines : List Line) (position : Nat) :
    Except Fault (Nat ⊕ Option Line) :=
  if position < lines.length then do
    let line ← get lines position
    if line.isFunctionEnd then return .inr none
    else if line.isFramePop then
      let previous ← get lines (← subtract position 1)
      if previous.content != Frame.release amount then return .inr (some line)
      else return .inl (position + 1)
    else return .inl (position + 1)
  else .ok (.inr none)

def padFunction (dialect : Dialect) (amount : Nat) (body : List Line) :
    Except Fault (Except SkipReason Frame.Padded) :=
  let function := Frame.functionName body
  if dialect == .gcc && !body.getLast?.any (·.isFunctionEnd) then
    .ok (.error (.truncated function))
  else do
    let lines ← expandLeaves body
    match seek Line.isFramePush lines 0 with
    | none => return .error (.missingPrologue function)
    | some position =>
      let push ← get lines position
      let lines ← insertAfter lines position (push.withContent (Frame.growth amount))
      match ← loop (patchNext function amount) (lines.length + 1) ⟨lines, 0, position + 2⟩ with
      | .error reason => return .error reason
      | .ok (lines, returns) =>
        match ← loop (inspectNext amount lines) (lines.length + 1) position with
        | some pop => return .error (.unpatchedEpilogue function pop.number)
        | none => return .ok { lines, returns }

theorem loop_expandNext (front rest : List Line) {rounds : Nat} (enough : rest.length < rounds) :
    loop expandNext rounds (front ++ rest, front.length) =
      .ok (front ++ Frame.expandLeaves front.length rest) := by
  induction rest generalizing front rounds with
  | nil =>
      refine loop_of_result ?_ (Nat.zero_lt_of_lt enough)
      simp [expandNext, Frame.expandLeaves, pure, Except.pure]
  | cons line rest ih =>
      have inside : front.length < (front ++ line :: rest).length := by simp
      have later : rest.length < rounds - 1 := Nat.lt_sub_of_add_lt enough
      cases leave : line.isLeave with
      | true =>
          have next : expandNext (front ++ line :: rest, front.length) =
              .ok (.inl (front ++ [line.withContent "\tmovq %rbp, %rsp",
                ⟨"\tpopq %rbp", front.length + 1⟩] ++ rest,
                (front ++ [line.withContent "\tmovq %rbp, %rsp",
                  ⟨"\tpopq %rbp", front.length + 1⟩]).length)) := by
            simp only [expandNext, inside, get_append, leave, set_append, insertAfter_append, bind,
              Except.bind, if_true]
            simp [pure, Except.pure]
          rw [loop_of_next next (Nat.zero_lt_of_lt enough), ih _ later, Frame.expandLeaves,
            if_pos leave, List.append_assoc, List.length_append]
          rfl
      | false =>
          have next : expandNext (front ++ line :: rest, front.length) =
              .ok (.inl (front ++ [line] ++ rest, (front ++ [line]).length)) := by
            simp only [expandNext, inside, get_append, leave, bind, Except.bind, if_true]
            simp [pure, Except.pure]
          rw [loop_of_next next (Nat.zero_lt_of_lt enough), ih _ later, Frame.expandLeaves,
            if_neg (by simp [leave]), List.append_assoc, List.length_append]
          rfl

theorem seek_append (property : Line → Bool) (front rest : List Line) :
    seek property (front ++ rest) front.length =
      (Frame.splitAtFirst? property rest).map fun (before, _, _) => front.length + before.length := by
  induction rest generalizing front with
  | nil =>
      rw [seek, Extent.firstFrom?_append]
      rfl
  | cons line rest ih =>
      rw [Frame.splitAtFirst?]
      cases holds : property line with
      | true =>
          rw [seek, Extent.firstFrom?_here (by rw [holds, Bool.true_or])]
          simp [holds]
      | false =>
          cases ends : line.isFunctionEnd with
          | true =>
              rw [seek, Extent.firstFrom?_here (by rw [holds, ends, Bool.false_or])]
              simp [holds]
          | false =>
              have passed : seek property (front ++ line :: rest) front.length =
                  seek property (front ++ [line] ++ rest) (front ++ [line]).length := by
                rw [seek, seek, Extent.firstFrom?_pass (by simp [holds, ends]), ← List.append_cons]
              rw [passed, ih]
              cases Frame.splitAtFirst? property rest with
              | none => rfl
              | some parts => simp [Nat.add_comm, Nat.add_left_comm]

theorem lastBefore_append (property : Line → Bool) (front stretch back : List Line) :
    lastBefore property (front ++ (stretch ++ back)) front.length (front.length + stretch.length) =
      .ok ((Frame.splitAtLast? property stretch).map fun (before, _, _) =>
        front.length + before.length) := by
  induction stretch using List.reverseRecOn generalizing back with
  | nil =>
      rw [List.length_nil, Nat.add_zero]
      cases front.length with
      | zero => rfl
      | succ cursor => rw [lastBefore, if_pos (Nat.lt_succ_self cursor)]; rfl
  | append_singleton stretch line ih =>
      have there := get_append (front ++ stretch) line back
      rw [List.append_assoc, List.length_append] at there
      have reach : front.length + (stretch ++ [line]).length =
          front.length + stretch.length + 1 := by
        simp [Nat.add_assoc]
      have later := ih (line :: back)
      rw [Frame.splitAtLast?_concat, reach, lastBefore, if_neg (by omega), List.append_assoc,
        List.singleton_append, there]
      cases holds : property line with
      | true =>
          simp only [bind, Except.bind, holds, if_true]
          rfl
      | false =>
          simp only [bind, Except.bind, holds, Bool.false_eq_true, if_false, later]
          cases Frame.splitAtLast? property stretch <;> rfl

/-- The positions of a return and its frame pop are found in the lines as they are then, and behind
    the return the cursor has moved on by the release. -/
theorem patchNext_of_pop {lines stretch rest before after : List Line} {ret pop : Line}
    (first : Frame.splitAtFirst? Line.isReturn lines = some (stretch, ret, rest))
    (last : Frame.splitAtLast? Line.isFramePop stretch = some (before, pop, after))
    (function : String) (amount : Nat) (front : List Line) (returns : Nat) :
    let done := front ++ (before ++ pop.withContent (Frame.release amount) :: pop :: after ++ [ret])
    patchNext function amount ⟨front ++ lines, returns, front.length⟩ =
      .ok (.inl ⟨done ++ rest, returns + 1, done.length⟩) := by
  obtain ⟨rfl, -⟩ := Frame.eq_of_splitAtFirst? first
  obtain ⟨rfl, -⟩ := Frame.eq_of_splitAtLast? last
  have looked := lastBefore_append Line.isFramePop front (before ++ pop :: after) (ret :: rest)
  have there := get_append (front ++ before) pop (after ++ ret :: rest)
  have inserted := insertBefore_append (front ++ before) pop (pop.withContent (Frame.release amount))
    (after ++ ret :: rest)
  have split : front ++ (before ++ pop :: after ++ ret :: rest) =
      front ++ before ++ pop :: (after ++ ret :: rest) := by simp
  rw [← split, List.length_append] at there inserted
  have behind : front.length + (before ++ pop :: after).length + 2 =
      (front ++ (before ++ pop.withContent (Frame.release amount) :: pop :: after ++ [ret])).length := by
    simp only [List.length_append, List.length_cons, List.length_nil]
    omega
  have patched : front ++ before ++ pop.withContent (Frame.release amount) :: pop ::
      (after ++ ret :: rest) =
        front ++ (before ++ pop.withContent (Frame.release amount) :: pop :: after ++ [ret]) ++ rest := by
    simp
  simp only [patchNext, seek_append, first, Option.map_some, looked, last, there, inserted, behind,
    patched, bind, Except.bind]
  rfl

theorem loop_patchNext (function : String) (amount : Nat) (front rest : List Line) (returns : Nat)
    {rounds : Nat} (enough : rest.length < rounds) :
    loop (patchNext function amount) rounds ⟨front ++ rest, returns, front.length⟩ =
      .ok ((Frame.patchReturns function amount rest).map fun (patched, count) =>
        (front ++ patched, returns + count)) := by
  fun_induction Frame.patchReturns function amount rest generalizing front returns rounds with
  | case1 lines none =>
      refine loop_of_result ?_ (Nat.zero_lt_of_lt enough)
      simp only [patchNext, seek_append, none, Option.map_none]
      rfl
  | case2 lines stretch ret rest first none =>
      obtain ⟨whole, -⟩ := Frame.eq_of_splitAtFirst? first
      refine loop_of_result ?_ (Nat.zero_lt_of_lt enough)
      have there := get_append (front ++ stretch) ret rest
      rw [List.append_assoc, List.length_append, ← whole] at there
      have looked := lastBefore_append Line.isFramePop front stretch (ret :: rest)
      rw [← whole] at looked
      simp only [patchNext, seek_append, first, Option.map_some, looked, none, Option.map_none,
        bind, Except.bind, there]
      rfl
  | case3 lines stretch ret rest first before pop after last reason fails ih =>
      have shorter := Frame.length_after_of_splitAtFirst? first
      rw [loop_of_next (patchNext_of_pop first last function amount front returns)
        (Nat.zero_lt_of_lt enough), ih _ _ (by omega), fails]
      rfl
  | case4 lines stretch ret rest first before pop after last patched count patches ih =>
      have shorter := Frame.length_after_of_splitAtFirst? first
      rw [loop_of_next (patchNext_of_pop first last function amount front returns)
        (Nat.zero_lt_of_lt enough), ih _ _ (by omega), patches]
      simp [Except.map, Nat.add_assoc, Nat.add_comm 1]

/-- The line in front of a frame pop is there to be looked at. -/
theorem loop_inspectNext (amount : Nat) (front : List Line) (previous : Line) (rest : List Line)
    {rounds : Nat} (enough : rest.length < rounds) :
    loop (inspectNext amount (front ++ previous :: rest)) rounds (front.length + 1) =
      .ok (Frame.firstUnpatched? amount previous rest) := by
  induction rest generalizing front previous rounds with
  | nil =>
      refine loop_of_result ?_ (Nat.zero_lt_of_lt enough)
      simp [inspectNext, Frame.firstUnpatched?]
  | cons line rest ih =>
      have inside : front.length + 1 < (front ++ previous :: line :: rest).length := by simp
      have there := get_append (front ++ [previous]) line rest
      rw [List.append_assoc, List.singleton_append, List.length_append, List.length_singleton] at there
      have behind := get_append front previous (line :: rest)
      have later := ih (front ++ [previous]) line (Nat.lt_sub_of_add_lt enough)
      rw [List.append_assoc, List.singleton_append, List.length_append, List.length_singleton] at later
      have looked : inspectNext amount (front ++ previous :: line :: rest) (front.length + 1) =
          if line.isFunctionEnd then .ok (.inr none)
          else if line.isFramePop && previous.content != Frame.release amount then .ok (.inr (some line))
          else .ok (.inl (front.length + 1 + 1)) := by
        simp only [inspectNext, inside, there, subtract_of_le (Nat.le_add_left 1 front.length),
          Nat.add_sub_cancel, behind, bind, Except.bind, if_true]
        cases line.isFunctionEnd <;> cases line.isFramePop <;> rfl
      rw [Frame.firstUnpatched?]
      by_cases ends : line.isFunctionEnd = true
      · rw [if_pos ends] at looked ⊢
        exact loop_of_result looked (Nat.zero_lt_of_lt enough)
      · rw [if_neg ends] at looked ⊢
        by_cases stray : (line.isFramePop && previous.content != Frame.release amount) = true
        · rw [if_pos stray] at looked ⊢
          exact loop_of_result looked (Nat.zero_lt_of_lt enough)
        · rw [if_neg stray] at looked ⊢
          exact (loop_of_next looked (Nat.zero_lt_of_lt enough)).trans later

/-- The look at the frame pops starts at the push, which is none and has the growth behind it. -/
theorem loop_inspectNext_of_push {push grown : Line} (pushes : push.isFramePush = true)
    (open' : grown.isFunctionEnd = false) (popless : grown.isFramePop = false) (amount : Nat)
    (front patched : List Line) :
    loop (inspectNext amount (front ++ push :: grown :: patched))
        ((front ++ push :: grown :: patched).length + 1) front.length =
      .ok (Frame.firstUnpatched? amount grown patched) := by
  have inside : front.length < (front ++ push :: grown :: patched).length := by simp
  have enough : (grown :: patched).length < (front ++ push :: grown :: patched).length := by
    rw [List.length_append]
    exact Nat.lt_add_left _ (Nat.lt_succ_self _)
  have inner := TellsLandmark.isFunctionEnd.no_instruction push
    (Line.isInstruction_of_isFramePush pushes)
  have passed : inspectNext amount (front ++ push :: grown :: patched) front.length =
      .ok (.inl (front.length + 1)) := by
    simp only [inspectNext, inside, get_append, inner, Frame.isFramePop_of_isFramePush pushes, bind,
      Except.bind, if_true]
    rfl
  rw [loop_of_next passed (Nat.succ_pos _), Nat.succ_sub_one,
    loop_inspectNext amount front push _ enough, Frame.firstUnpatched?,
    if_neg (by simp [open']), if_neg (by simp [popless])]

theorem padFunction_eq (dialect : Dialect) (amount : Nat) (body : List Line) :
    padFunction dialect amount body = .ok (Frame.pad dialect amount body) := by
  have expanded : expandLeaves body = .ok (Frame.expandLeaves 0 body) :=
    loop_expandNext [] body (Nat.lt_succ_self _)
  rw [padFunction, Frame.pad]
  split
  next => rfl
  next =>
    simp only [expanded, bind, Except.bind]
    have sought := seek_append Line.isFramePush [] (Frame.expandLeaves 0 body)
    rw [List.nil_append, List.length_nil] at sought
    rw [sought]
    cases first : Frame.splitAtFirst? Line.isFramePush (Frame.expandLeaves 0 body) with
    | none => rfl
    | some parts =>
        obtain ⟨before, push, rest⟩ := parts
        obtain ⟨whole, pushes⟩ := Frame.eq_of_splitAtFirst? first
        have open' := TellsLandmark.isFunctionEnd.no_instruction
          (push.withContent (Frame.growth amount)) (Frame.isInstruction_growth amount push.number)
        have popless := Frame.isFramePop_growth amount push
        simp only [Option.map_some, Nat.zero_add, whole, get_append, insertAfter_append]
        generalize push.withContent (Frame.growth amount) = grown at open' popless ⊢
        have layout (rest : List Line) :
            before ++ push :: grown :: rest = before ++ [push, grown] ++ rest := by simp
        have patches : loop (patchNext (Frame.functionName body) amount)
            ((before ++ push :: grown :: rest).length + 1)
            ⟨before ++ push :: grown :: rest, 0, before.length + 2⟩ =
              .ok ((Frame.patchReturns (Frame.functionName body) amount rest).map
                fun (patched, count) => (before ++ [push, grown] ++ patched, 0 + count)) := by
          have behind : before.length + 2 = (before ++ [push, grown]).length := by simp
          rw [layout, behind]
          exact loop_patchNext (Frame.functionName body) amount _ rest 0
            (by rw [List.length_append]; omega)
        simp only [patches]
        cases Frame.patchReturns (Frame.functionName body) amount rest with
        | error reason => rfl
        | ok result =>
            obtain ⟨patched, returns⟩ := result
            have inspected := loop_inspectNext_of_push pushes open' popless amount before patched
            simp only [Except.map, ← layout, inspected, Nat.zero_add]
            cases Frame.firstUnpatched? amount grown patched <;> rfl

end AsmLayout.Checked
