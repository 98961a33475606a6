import AsmLayout.Error
import AsmLayout.Line

/-! # Dialects

The convention by which a compiler marks functions and blocks in its output.
-/

namespace AsmLayout

inductive Dialect where
  /-- Functions are announced by `# -- Begin name` comments, blocks separated by blank lines. -/
  | libfirm
  /-- Functions carry `.cfi` directives, blocks start at a segment statement. -/
  | gcc
  deriving Repr, DecidableEq

namespace Dialect

def name : Dialect → String
  | libfirm => "Libfirm"
  | gcc => "Gcc"

/-- A number sign, then hyphens and spaces of which the last is a space, then `Begin` and a space,
    all at the very start of the line. -/
def isBeginMarker (line : Line) : Bool :=
  match line.chars with
  | '#' :: rest =>
    let filler := rest.takeWhile fun c => c == '-' || c == ' '
    let tail := rest.dropWhile fun c => c == '-' || c == ' '
    filler.getLast? == some ' ' && "Begin ".toList.isPrefixOf tail
  | _ => false

def isCallFrame (line : Line) : Bool :=
  line.startsWith ".cfi"

/-- Tell the dialect from the marker lines; begin markers win over call-frame directives. -/
def detect (lines : List Line) : Except Error Dialect :=
  if lines.any isBeginMarker then .ok libfirm
  else if lines.any isCallFrame then .ok gcc
  else .error (.unknownDialect lines.length)

/-- Whether a line opens a new section. -/
def splitsBefore : Dialect → Line → Bool
  | libfirm, line => line.isBlank
  | gcc, line => line.normalized == ".text".toList || line.isSegment

def isFunctionMarker : Dialect → Line → Bool
  | libfirm, line => isBeginMarker line
  | gcc, _ => false

/-- Whether the first section with call-frame directives keeps its place when sections are
    reordered. -/
def pinsFirstCallFrame : Dialect → Bool
  | libfirm => false
  | gcc => true

end Dialect

end AsmLayout
