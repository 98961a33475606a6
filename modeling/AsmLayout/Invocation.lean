import AsmLayout.Error

/-! # Assembler command lines

A command line names the program, then its arguments, of which the last is the source file.
-/

namespace AsmLayout

/-- A call of an assembler. -/
structure Invocation where
  program : String
  args : List String
  args_ne_nil : args ≠ []
  deriving DecidableEq

namespace Invocation

/-- Take a command line and put another program in the place of its first word. -/
def ofWords (assembler : String) : List String → Except Error Invocation
  | _ :: arg :: args => .ok ⟨assembler, arg :: args, List.cons_ne_nil arg args⟩
  | _ => .error .emptyInvocation

def words (invocation : Invocation) : List String :=
  invocation.program :: invocation.args

def source (invocation : Invocation) : String :=
  invocation.args.getLast invocation.args_ne_nil

end Invocation

/-- An assembler's refusal of its input. -/
structure Rejection where
  /-- The exit code; a process that was killed or never started has none. -/
  status : Option Int
  stderr : String
  deriving Repr, DecidableEq

/-- What an assembler says of its input. -/
inductive Verdict where
  | accepted
  | rejected (rejection : Rejection)
  deriving Repr, DecidableEq

end AsmLayout
