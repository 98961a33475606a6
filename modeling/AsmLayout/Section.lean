import AsmLayout.Dialect

/-! # Sections

A section is a run of consecutive lines of a listing that is moved as a whole. Edits inside a
section keep its first number and number the other lines on from there.
-/

namespace AsmLayout

inductive SectionKind where
  /-- Data, directives or boilerplate. -/
  | plain
  /-- A function label or a function marker of the dialect. -/
  | function
  deriving Repr, DecidableEq

def SectionKind.name : SectionKind → String
  | plain => "Plain"
  | function => "Function"

/-- A run of lines. -/
structure Section where
  kind : SectionKind
  dialect : Dialect
  lines : List Line
  deriving Repr, DecidableEq

namespace Section

def holdsFunction (dialect : Dialect) (lines : List Line) : Bool :=
  lines.any fun line => line.isFunctionLabel || dialect.isFunctionMarker line

def ofLines (dialect : Dialect) (lines : List Line) : Section :=
  { kind := if holdsFunction dialect lines then .function else .plain, dialect, lines }

/-- Whether a section was found to hold a function. -/
def isFunction (sec : Section) : Bool :=
  sec.kind == .function

/-- The number of the first line, zero without lines. -/
def firstNumber (sec : Section) : Nat :=
  match sec.lines with
  | [] => 0
  | line :: _ => line.number

/-- The numbers of a section from its first line to behind its last. -/
def span (sec : Section) : Nat × Nat :=
  match sec.lines.head?, sec.lines.getLast? with
  | some first, some last => (first.number, last.number + 1)
  | _, _ => (0, 0)

def firstText? (sec : Section) : Option Line :=
  sec.lines.find? (!·.isBlank)

/-- Whether the first line that is not blank opens a segment. -/
def startsWithSegment (sec : Section) : Bool :=
  sec.firstText?.any (·.isSegment)

/-- Number the lines from `start` on. -/
def renumber (start : Nat) (sec : Section) : Section :=
  { sec with lines := Line.renumber start sec.lines }

/-- The number behind the last line of a section numbered from `start` on. -/
def nextNumber (start : Nat) (sec : Section) : Nat :=
  start + sec.lines.length

/-- Put other lines into a section, numbered from its first number on. The kind stays. -/
def edit (sec : Section) (lines : List Line) : Section :=
  { sec with lines := Line.renumber sec.firstNumber lines }

/-- A directive that only helps a debugger find source locations. -/
def isLocation (line : Line) : Bool :=
  line.startsWith ".loc "

def writtenLines (sec : Section) : List String :=
  (sec.lines.filter (!isLocation ·)).map (·.content)

/-- The text of a section, without location directives. -/
def render (sec : Section) : String :=
  "\n".intercalate sec.writtenLines

end Section

end AsmLayout
