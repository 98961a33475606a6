import AsmLayout.File.System
import AsmLayout.Journal
import AsmLayout.Journal.Diagnostics

/-! # How a command ends

Whatever a command does is in its outcome: nothing is printed, reported or written before it ends.
-/

namespace AsmLayout.Command

/-- Why a command failed. -/
inductive CommandError where
  /-- A line for the assembler without a source file. -/
  | missingSource (words : List String)
  | file (cause : IoError)
  | failure (cause : Failure)
  /-- The source or the seed is at fault, found by the command itself. -/
  | source (cause : Error)
  deriving Repr, DecidableEq

def CommandError.inspect : CommandError → String
  | missingSource words =>
    Text.inspectWrapped "MissingSource" (Text.inspectList (words.map Text.inspect))
  | file cause => Text.inspectWrapped "File" cause.inspect
  | failure cause => Text.inspectWrapped "Transform" cause.inspect
  | source cause => cause.inspect

/-- The end of a command: its result, what it printed and reported, and the files it leaves. -/
structure Outcome where
  result : Except CommandError Unit
  stdout : String
  /-- What was written to the standard error by its path. -/
  aside : String := ""
  entries : List Journal.Entry
  files : FileSystem

namespace Outcome

def exitCode (outcome : Outcome) : Nat :=
  match outcome.result with
  | .ok () => 0
  | .error _ => 1

/-- The reports of at least some level, as lines. -/
def report (threshold : Option Journal.Level) (outcome : Outcome) : String :=
  Journal.render threshold outcome.entries

/-- The line that tells the error, if there is one. -/
def complaint (outcome : Outcome) : String :=
  match outcome.result with
  | .ok () => ""
  | .error cause => s!"Error: {cause.inspect}\n"

/-- The text on standard error: the reports, what was written there, then the error. -/
def stderr (threshold : Option Journal.Level) (outcome : Outcome) : String :=
  outcome.report threshold ++ outcome.aside ++ outcome.complaint

end Outcome

end AsmLayout.Command
