/-! # Why a JSON text is refused

JSON is read in a stream, so the first problem met decides.
-/

namespace AsmLayout.Json

/-- The kind of the first problem met. -/
inductive Problem where
  /-- Not JSON: a character out of place, a bad escape, a number out of range, too deep nesting. -/
  | malformed
  /-- The text ended too early. -/
  | truncated
  /-- JSON of another shape than was asked for. -/
  | mismatched
  deriving Repr, DecidableEq

/-- The name of a kind of problem. -/
def Problem.category : Problem → String
  | malformed => "Syntax"
  | truncated => "Eof"
  | mismatched => "Data"

end AsmLayout.Json
