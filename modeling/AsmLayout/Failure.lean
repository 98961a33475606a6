import AsmLayout.Error
import AsmLayout.Json.Problem

/-! # Failures of a randomization

What ends a randomization or an assembler run; `Failure.message` holds the wording.
-/

namespace AsmLayout

/-- Why a randomization or an assembler run failed. -/
inductive Failure where
  /-- Every attempt was rejected, the unmodified source included; status and error text are those of
      the last run. -/
  | assemblerFailed (attempts : Nat) (status : Option Int) (stderr : String)
  /-- The source or the seed is at fault. -/
  | source (cause : Error)
  | paddingBoundTooLarge (field : String) (bound largest : Nat)
  /-- The configuration text cannot be read. -/
  | invalidConfig (problem : Json.Problem)
  deriving Repr, DecidableEq

/-- The text of an exit status that a killed process does not have. -/
def statusText : Option Int → String
  | some code => s!"Some({code})"
  | none => "None"

def Failure.message : Failure → String
  | assemblerFailed attempts status stderr =>
    s!"assembler failed after {attempts} attempts (status {statusText status}):\n{stderr}"
  | source cause => s!"core operation failed: {cause.message}"
  | paddingBoundTooLarge field limit largest =>
    s!"{field} bound {limit} exceeds the largest immediate bound {largest}"
  | invalidConfig problem => s!"invalid randomization config: {problem.category}"

end AsmLayout
