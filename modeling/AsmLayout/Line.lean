import AsmLayout.Text.Blank

/-! # Lines of assembly and their classification

Every property of a line is read off its own text, except that the line numbered zero can also be a
section boundary. Apart from comments, what a line is depends on its words alone.
-/

namespace AsmLayout

/-- One physical line of assembly, without its terminator. -/
structure Line where
  content : String
  /-- Position in the file, as of the last renumbering. -/
  number : Nat
  deriving Repr, DecidableEq

namespace Line

/-- Number lines from `start` on, in order. -/
def numbered (start : Nat) : List String → List Line
  | [] => []
  | content :: rest => ⟨content, start⟩ :: numbered (start + 1) rest

/-- Give lines dense numbers from `start` on, in order. -/
def renumber (start : Nat) : List Line → List Line
  | [] => []
  | line :: rest => { line with number := start } :: renumber (start + 1) rest

/-- Another text at the same number. -/
def withContent (line : Line) (content : String) : Line :=
  { line with content }

def chars (line : Line) : List Char :=
  line.content.toList

def words (line : Line) : List (List Char) :=
  Text.words line.chars

/-- The line with single spaces between its words and no blanks around them. -/
def normalized (line : Line) : List Char :=
  Text.normalize line.chars

/-- Whether the normalized line starts with `pattern`. -/
def startsWith (line : Line) (pattern : String) : Bool :=
  pattern.toList.isPrefixOf line.normalized

def isBlank (line : Line) : Bool :=
  line.chars.all Text.isBlank

/-- A label has a colon in its first word. -/
def isLabel (line : Line) : Bool :=
  match line.words with
  | [] => false
  | word :: _ => word.contains ':'

/-- The name of a label: what stands in front of its first colon. -/
def label? (line : Line) : Option String :=
  if line.isLabel then
    some (String.ofList ((Text.trimStart line.chars).takeWhile (· != ':')))
  else none

/-- A label that names a function or a global object does not start with a dot. -/
def isFunctionLabel (line : Line) : Bool :=
  match line.label? with
  | some name => name.toList.head? != some '.'
  | none => false

/-- A comment starts with a slash. -/
def isSlashed (line : Line) : Bool :=
  (Text.trimStart line.chars).head? == some '/'

/-- A statement is neither a label nor a comment nor blank. -/
def isStatement (line : Line) : Bool :=
  !line.isLabel && !line.isBlank && !line.isSlashed

/-- The first word of a statement. -/
def mnemonic? (line : Line) : Option String :=
  if line.isStatement then line.words.head?.map String.ofList else none

/-- Names of the segments that open a new region of a file. -/
def segmentNames : List String :=
  ["bss", "data", "rodata", "text"]

/-- A statement that opens one of the named segments, either by itself (`.data`) or through a
    `.section .data` directive. Only the start of the name counts. -/
def isSegmentOf (line : Line) (names : List String) : Bool :=
  line.isStatement && names.any fun name =>
    line.startsWith ("." ++ name) || line.startsWith (".section ." ++ name)

/-- A statement that opens one of the `segmentNames`. -/
def isSegment (line : Line) : Bool :=
  line.isSegmentOf segmentNames

/-- Where the extent of a data segment ends: at a blank line, a segment statement, or a statement
    numbered zero. -/
def isBoundary (line : Line) : Bool :=
  line.isBlank || (line.isStatement && (line.isSegment || line.number == 0))

end Line

end AsmLayout
