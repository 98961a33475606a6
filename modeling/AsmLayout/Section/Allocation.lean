import AsmLayout.Random.Generator
import AsmLayout.Section
import AsmLayout.Statement

/-! # Padding allocation calls

In front of every call of an allocation function an instruction is inserted that makes the requested
size larger. Sizes of `realloc` are left alone.
-/

namespace AsmLayout

/-- The width of pointers, which decides the register that holds a requested size. -/
inductive PointerWidth where
  | bits32
  | bits64
  deriving Repr, DecidableEq

/-- The instruction that adds an amount to the first argument register. -/
def PointerWidth.sizeAdjustment (width : PointerWidth) (amount : Nat) : String :=
  match width with
  | bits64 => s!"\taddq ${amount}, %rdi"
  | bits32 => s!"\tadd ${amount}, %edi"

/-- The functions whose calls are padded. -/
def allocationFunctions : List String :=
  ["malloc", "_Znwm", "_Znam", "calloc"]

/-- The name of a call's target, without what follows an at sign. -/
def callTarget (operand : String) : String :=
  String.ofList (operand.toList.takeWhile (· != '@'))

def Line.isAllocationCall (line : Line) : Bool :=
  line.isStatementWith fun statement =>
    ["call", "callq"].contains statement.mnemonic &&
      match statement.firstOperand? with
      | some operand => allocationFunctions.contains (callTarget operand)
      | none => false

/-- A padded call: its number before the padding, and the amount. -/
structure PaddedCall where
  line : Nat
  amount : Nat
  deriving Repr, DecidableEq

variable {G : Type} [Random.Generator G]

/-- Put an adjustment before every allocation call. Amounts are drawn for the last call first; the
    padded calls are listed from first to last. -/
def padCalls (range : Random.Interval) (width : PointerWidth) :
    List Line → G → (List Line × List PaddedCall) × G
  | [], g => (([], []), g)
  | line :: rest, g =>
    let ((lines, calls), g) := padCalls range width rest g
    if line.isAllocationCall then
      let (amount, g) := Random.inInterval range g
      ((line.withContent (width.sizeAdjustment amount) :: line :: lines,
        ⟨line.number, amount⟩ :: calls), g)
    else ((line :: lines, calls), g)

/-- Pad the allocation calls of a section. Without a call or an amount to draw nothing changes, not
    even a number. -/
def Section.padAllocations (range : Random.Interval) (width : PointerWidth) (sec : Section)
    (g : G) : (Section × List PaddedCall) × G :=
  if range.isEmpty || !sec.lines.any (·.isAllocationCall) then ((sec, []), g)
  else
    let ((lines, calls), g) := padCalls range width sec.lines g
    ((sec.edit lines, calls), g)

end AsmLayout
