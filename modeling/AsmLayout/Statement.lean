import AsmLayout.Error
import AsmLayout.Line

/-! # Statements

A statement line decoded into its mnemonic and the text of its operands.
-/

namespace AsmLayout

/-- A decoded statement line. -/
structure Statement where
  line : Line
  /-- The first word. -/
  mnemonic : String
  /-- What follows the mnemonic, without blanks around it. -/
  rest : String
  deriving Repr, DecidableEq

namespace Statement

/-- Decode a line; anything but a statement is refused. -/
def ofLine (line : Line) : Except Error Statement :=
  if line.isStatement then
    let text := Text.trim line.chars
    .ok {
      line
      mnemonic := String.ofList (text.takeWhile (!Text.isBlank ·))
      rest := String.ofList (Text.trimStart (text.dropWhile (!Text.isBlank ·))) }
  else .error (.notAStatement line.number line.content)

def firstOperand? (statement : Statement) : Option String :=
  (Text.words statement.rest.toList).head?.map String.ofList

end Statement

def Line.isStatementWith (line : Line) (property : Statement → Bool) : Bool :=
  match Statement.ofLine line with
  | .ok statement => property statement
  | .error _ => false

end AsmLayout
