import AsmLayout.Section
import AsmLayout.Statement

/-! # Padding stack frames

A function grows its frame by an amount after its prologue and releases it before every return. The
edit is all or nothing for each function: where a return cannot be patched, or a frame pop belongs to
no return, the function keeps its lines.
-/

namespace AsmLayout

/-- The alignment of the stack at calls. Amounts are rounded down to a multiple of it. -/
def stackAlignment : Nat := 16

/-- Round an amount down to the alignment. -/
def alignDown (amount : Nat) : Nat :=
  amount - amount % stackAlignment

/-- Why a function keeps its frame. -/
inductive SkipReason where
  /-- A function end was met before any function label. -/
  | missingLabel (line : Nat)
  /-- No frame push between the label and the function end. -/
  | missingPrologue (function : String)
  /-- A return without a frame pop between it and the previous patch. -/
  | missingEpilogue (function : String) (line : Nat)
  /-- A frame pop that no return follows. -/
  | unpatchedEpilogue (function : String) (line : Nat)
  /-- The section ends before the function does. -/
  | truncated (function : String)
  deriving Repr, DecidableEq

inductive FrameOutcome where
  | padded (function : String) (amount returns : Nat)
  | skipped (reason : SkipReason)
  deriving Repr, DecidableEq

/-- The functions that were padded, and why the others were not. -/
structure PaddingReport where
  padded : List String
  skipped : List SkipReason
  deriving Repr, DecidableEq

namespace PaddingReport

def ofOutcomes (outcomes : List FrameOutcome) : PaddingReport where
  padded := outcomes.filterMap fun
    | .padded function _ _ => some function
    | .skipped _ => none
  skipped := outcomes.filterMap fun
    | .padded _ _ _ => none
    | .skipped reason => some reason

/-- Whether something was padded and nothing skipped. -/
def isComplete (report : PaddingReport) : Bool :=
  !report.padded.isEmpty && report.skipped.isEmpty

end PaddingReport

namespace Line

def isFunctionEnd (line : Line) : Bool :=
  Text.trim line.chars == ".cfi_endproc".toList

def isFramePush (line : Line) : Bool :=
  line.isStatementWith fun statement =>
    statement.mnemonic == "pushq" && "%rbp".toList.isPrefixOf statement.rest.toList

def isFramePop (line : Line) : Bool :=
  line.isStatementWith fun statement =>
    statement.mnemonic == "popq" && statement.firstOperand? == some "%rbp"

/-- A return, with or without a repeat in front. -/
def isReturn (line : Line) : Bool :=
  line.isStatementWith fun statement =>
    ["ret", "retq"].contains statement.mnemonic ||
      (["rep", "repz"].contains statement.mnemonic &&
        match statement.firstOperand? with
        | some operand => ["ret", "retq"].contains operand
        | none => false)

/-- An instruction that restores the stack pointer and pops the frame pointer. -/
def isLeave (line : Line) : Bool :=
  line.mnemonic? == some "leave" || line.mnemonic? == some "leaveq"

end Line

namespace Frame

/-- The instruction that grows a frame. -/
def growth (amount : Nat) : String :=
  s!"\tsubq ${amount}, %rsp"

/-- The instruction that shrinks a frame. -/
def release (amount : Nat) : String :=
  s!"\taddq ${amount}, %rsp"

/-- Write every `leave` out as two instructions. `position` is the place of the first line in the
    result; the second instruction is numbered by its place there. -/
def expandLeaves (position : Nat) : List Line → List Line
  | [] => []
  | line :: rest =>
    if line.isLeave then
      line.withContent "\tmovq %rbp, %rsp" :: ⟨"\tpopq %rbp", position + 1⟩ ::
        expandLeaves (position + 2) rest
    else line :: expandLeaves (position + 1) rest

/-- Split at the first line with a property; a function end in front of it hides it. -/
def splitAtFirst? (property : Line → Bool) : List Line → Option (List Line × Line × List Line)
  | [] => none
  | line :: rest =>
    if property line then some ([], line, rest)
    else if line.isFunctionEnd then none
    else match splitAtFirst? property rest with
      | some (before, found, after) => some (line :: before, found, after)
      | none => none

def splitAtLast? (property : Line → Bool) : List Line → Option (List Line × Line × List Line)
  | [] => none
  | line :: rest =>
    match splitAtLast? property rest with
    | some (before, found, after) => some (line :: before, found, after)
    | none => if property line then some ([], line, rest) else none

theorem length_after_of_splitAtFirst? {property : Line → Bool} {lines before after : List Line}
    {found : Line} (h : splitAtFirst? property lines = some (before, found, after)) :
    after.length < lines.length := by
  induction lines generalizing before with
  | nil => simp [splitAtFirst?] at h
  | cons line rest ih =>
    simp only [splitAtFirst?] at h
    split at h
    · simp only [Option.some.injEq, Prod.mk.injEq] at h
      simp [← h.2.2]
    · split at h
      · simp at h
      · split at h
        · rename_i hrest
          simp only [Option.some.injEq, Prod.mk.injEq] at h
          obtain ⟨_, rfl, rfl⟩ := h
          exact Nat.lt_succ_of_lt (ih hrest)
        · simp at h

/-- Put a release before the last frame pop in front of each return; gives the lines and the number
    of returns. -/
def patchReturns (function : String) (amount : Nat) (lines : List Line) :
    Except SkipReason (List Line × Nat) :=
  match _h : splitAtFirst? Line.isReturn lines with
  | none => .ok (lines, 0)
  | some (stretch, ret, rest) =>
    match splitAtLast? Line.isFramePop stretch with
    | none => .error (.missingEpilogue function ret.number)
    | some (before, pop, after) =>
      match patchReturns function amount rest with
      | .error reason => .error reason
      | .ok (patched, returns) =>
        .ok (before ++ pop.withContent (release amount) :: pop :: after ++ ret :: patched,
          returns + 1)
termination_by lines.length
decreasing_by exact length_after_of_splitAtFirst? _h

/-- The first frame pop before the function end that does not directly follow a release. -/
def firstUnpatched? (amount : Nat) (previous : Line) : List Line → Option Line
  | [] => none
  | line :: rest =>
    if line.isFunctionEnd then none
    else if line.isFramePop && previous.content != release amount then some line
    else firstUnpatched? amount line rest

/-- A padded function. -/
structure Padded where
  lines : List Line
  returns : Nat
  deriving Repr, DecidableEq

/-- The name of a function, from its first line. -/
def functionName (body : List Line) : String :=
  (body.head?.bind (·.label?)).getD ""

/-- Pad one function, given from its label on. -/
def pad (dialect : Dialect) (amount : Nat) (body : List Line) : Except SkipReason Padded :=
  let function := functionName body
  if dialect == .gcc && !body.getLast?.any (·.isFunctionEnd) then .error (.truncated function)
  else match splitAtFirst? Line.isFramePush (expandLeaves 0 body) with
    | none => .error (.missingPrologue function)
    | some (before, push, rest) =>
      match patchReturns function amount rest with
      | .error reason => .error reason
      | .ok (patched, returns) =>
        let grown := push.withContent (growth amount)
        match firstUnpatched? amount grown patched with
        | some pop => .error (.unpatchedEpilogue function pop.number)
        | none => .ok { lines := before ++ push :: grown :: patched, returns }

end Frame

/-- A part of a function section. -/
inductive FramePart where
  /-- A line that belongs to no function. -/
  | outside (line : Line)
  /-- A function end without a label in front. -/
  | orphan (line : Line)
  /-- The lines of a function, from its label to its end or the end of the section. -/
  | function (body : List Line)
  deriving Repr, DecidableEq

namespace FramePart

/-- The lines up to the first function end, that one included, and the lines after it. -/
def throughEnd : List Line → List Line × List Line
  | [] => ([], [])
  | line :: rest =>
    if line.isFunctionEnd then ([line], rest)
    else
      let (body, after) := throughEnd rest
      (line :: body, after)

theorem length_throughEnd_le (lines : List Line) : (throughEnd lines).2.length ≤ lines.length := by
  induction lines with
  | nil => simp [throughEnd]
  | cons line rest ih =>
    simp only [throughEnd]
    split
    · simp
    · simpa using Nat.le_succ_of_le ih

/-- Cut lines into functions and the lines between them. -/
def cut : List Line → List FramePart
  | [] => []
  | line :: rest =>
    if line.isFunctionEnd then .orphan line :: cut rest
    else if line.isFunctionLabel then
      .function (line :: (throughEnd rest).1) :: cut (throughEnd rest).2
    else .outside line :: cut rest
termination_by lines => lines.length
decreasing_by
  · simp
  · exact Nat.lt_succ_of_le (length_throughEnd_le rest)
  · simp

/-- Pad the function of a part: the lines that result, and what became of the function. -/
def pad (dialect : Dialect) (amount : Nat) : FramePart → List Line × Option FrameOutcome
  | outside line => ([line], none)
  | orphan line => ([line], some (.skipped (.missingLabel line.number)))
  | function body =>
    match Frame.pad dialect amount body with
    | .ok padded => (padded.lines, some (.padded (Frame.functionName body) amount padded.returns))
    | .error reason => (body, some (.skipped reason))

end FramePart

/-- Grow the frame of every function of a section by an amount, rounded down to the alignment. A
    section in which no function was met is reported by its first number. -/
def Section.padFrames (amount : Nat) (sec : Section) : Section × List FrameOutcome :=
  let parts := (FramePart.cut sec.lines).map (FramePart.pad sec.dialect (alignDown amount))
  let outcomes := parts.filterMap (·.2)
  (sec.edit (parts.flatMap (·.1)),
    if outcomes.isEmpty then [.skipped (.missingLabel sec.firstNumber)] else outcomes)

end AsmLayout
