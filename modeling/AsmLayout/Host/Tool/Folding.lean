import AsmLayout.Host.Tool

/-! # Tools that change how wide lines are

A line is cut where it would become too wide, and tabs stand for the blanks up to the next stop.
-/

namespace AsmLayout.Host

open Text (Octets)

/-! ## Cut lines -/

/-- The column behind a character; a tab goes to the next multiple of eight. -/
def columnBehind (bytes : Bool) (column : Nat) (c : Char) : Nat :=
  if bytes then column + 1
  else match c with
    | '\x08' => column - 1
    | '\r' => 0
    | '\t' => column + 8 - column % 8
    | _ => column + 1

structure Cut where
  width : Nat
  /-- Every byte is a column. -/
  bytes : Bool := false
  /-- Lines are cut behind blanks where that can be done. -/
  atBlanks : Bool := false
  deriving Repr, DecidableEq

/-- A line that grows: its characters, the last one first, and how wide it is. -/
structure GrowingLine where
  text : Octets := []
  column : Nat := 0
  deriving Repr, DecidableEq

namespace Cut

/-- A line of characters, the last of which comes first here. -/
def lineOf (cut : Cut) (text : Octets) : GrowingLine :=
  ⟨text, text.reverse.foldl (columnBehind cut.bytes) 0⟩

/-- Add a character to a line, which is cut first if it would be too wide. Gives the line and the pieces that
    are done, the last one first. -/
def add (cut : Cut) (c : Char) :
    (fuel : Nat) → (done : List Octets) → GrowingLine → List Octets × GrowingLine
  | 0, done, line => (done, line)
  | fuel + 1, done, line =>
    let column := columnBehind cut.bytes line.column c
    if column ≤ cut.width || line.text.isEmpty then (done, ⟨c :: line.text, column⟩)
    else
      let tail := line.text.takeWhile fun c => c != ' ' && c != '\t'
      let front := line.text.drop tail.length
      if cut.atBlanks && !front.isEmpty then
        add cut c fuel (('\n' :: front).reverse :: done) (cut.lineOf tail)
      else add cut c fuel (('\n' :: line.text).reverse :: done) {}

/-- Cut the lines of a text. Gives the pieces, the last one first. -/
def pieces (cut : Cut) : (done : List Octets) → GrowingLine → Octets → List Octets
  | done, line, [] => line.text.reverse :: done
  | done, line, c :: rest =>
    if c = '\n' then pieces cut (('\n' :: line.text).reverse :: done) {} rest
    else
      let (done, line) := cut.add c (line.text.length + 2) done line
      pieces cut done line rest

/-- A text with lines that are not too wide. -/
def fold (cut : Cut) (text : Octets) : Octets :=
  (cut.pieces [] {} text).reverse.flatten

end Cut

/-- Words in which a width that is given by digits alone is an option of its own. The first word may be the
    argument of an option. -/
def withPlainWidth (letter : Char) (flags : List Char) : (isArgument : Bool) → List Octets → List Octets
  | _, [] => []
  | true, word :: words => word :: withPlainWidth letter flags false words
  | false, word :: words =>
    match word with
    | ['-', '-'] => word :: words
    | '-' :: rest =>
      let front := rest.takeWhile flags.contains
      let behind := rest.drop front.length
      (if behind.head?.any Char.isDigit then '-' :: front ++ letter :: behind else word) ::
        withPlainWidth letter flags (behind == [letter]) words
    | word => word :: withPlainWidth letter flags false words

/-- Why a number cannot be taken. -/
inductive CountFault where
  | nonsense
  | tooSmall
  | tooLarge
  deriving Repr, DecidableEq

/-- What is said behind a number that cannot be taken. -/
def CountFault.reason : CountFault → String
  | nonsense => ""
  | tooSmall => ": Numerical result out of range"
  | tooLarge => ": Value too large for defined data type"

/-- A number between bounds. -/
def countBetween (least most : Nat) (text : Octets) : Except CountFault Nat :=
  let digits := match text.dropWhile fun c => c == ' ' || ('\t' ≤ c && c ≤ '\r') with
    | '+' :: rest => rest
    | rest => rest
  if digits.isEmpty || !digits.all Char.isDigit then .error .nonsense
  else
    let n := (String.ofList digits).toNat?.getD 0
    if n < least then .error .tooSmall else if most < n then .error .tooLarge else .ok n

/-- The widest line that can be asked for. -/
def greatestWidth : Nat := 0xFFFFFFFFFFFFFFF6

/-- Cut lines that are too wide. -/
def foldLines : Tool := fun _ name words =>
  withTable
    { flags := "bs", valued := "w", long := [("bytes", 'b'), ("spaces", 's'), ("width", 'w')] } 1
    (fun call => do
      let mut width := 80
      for (letter, value) in call.options do
        if letter = 'w' then
          match countBetween 1 greatestWidth value with
          | .ok n => width := n
          | .error fault =>
            complainAs name (ascii "invalid number of columns: " ++ inMarks value ++ ascii fault.reason)
            return 1
      let cut : Cut := { width, bytes := call.has 'b', atBlanks := call.has 's' }
      let mut good := true
      for path in call.inputs do
        match ← readOperand path with
        | .ok text => print (cut.fold text)
        | .error cause =>
          complainOfFile name path cause
          good := false
      return if good then 0 else 1)
    name (withPlainWidth 'w' ['b', 's'] false words)

/-! ## Tabs -/

/-- Where tabs go to behind the last stop. -/
inductive TabsBeyond where
  /-- One column on. -/
  | single
  /-- To multiples of a number. -/
  | multiples (size : Nat)
  /-- To multiples of a number, counted from the last stop. -/
  | steps (size : Nat)
  deriving Repr, DecidableEq

structure TabStops where
  stops : List Nat := []
  beyond : TabsBeyond := .multiples 8
  deriving Repr, DecidableEq

/-- The stop behind a column; none if there are no more. -/
def TabStops.next? (tabs : TabStops) (column : Nat) : Option Nat :=
  match tabs.stops.find? (column < ·) with
  | some stop => some stop
  | none =>
    match tabs.beyond with
    | .single => none
    | .multiples size => some (column + size - column % size)
    | .steps size =>
      let last := tabs.stops.getLast?.getD 0
      some (column + size - (column - last) % size)

def TabStops.read (text : Octets) : Except Octets TabStops := do
  let pieces := (text.splitBy fun a b => !(isGap a) && !(isGap b)).filter fun piece =>
    !piece.any isGap
  let mut stops : List Nat := []
  let mut beyond : Option TabsBeyond := none
  for piece in pieces do
    let digits := match piece with
      | '/' :: rest | '+' :: rest => rest
      | rest => rest
    if digits.isEmpty || !digits.all Char.isDigit then
      throw (ascii "tab size contains invalid character(s): " ++ inMarks (digits.dropWhile Char.isDigit))
    let n := (String.ofList digits).toNat?.getD 0
    match piece.head? with
    | some '/' => beyond := some (.multiples n)
    | some '+' => beyond := some (.steps n)
    | _ =>
      if n = 0 then throw (ascii "tab size cannot be 0")
      if stops.getLast?.any (n ≤ ·) then throw (ascii "tab sizes must be ascending")
      stops := stops ++ [n]
  match stops, beyond with
  | [], none => return {}
  | [size], none => return { beyond := .multiples size }
  | _, none => return { stops, beyond := .single }
  | _, some (.multiples 0) | _, some (.steps 0) => return { stops, beyond := .single }
  | _, some rule => return { stops, beyond := rule }
where
  /-- Whether a character stands between stops. -/
  isGap (c : Char) : Bool := c == ',' || c == ' ' || c == '\t'

/-- A text with blanks in the place of tabs, from a column on. If only the blanks in front of lines count,
    `isOpen` tells whether nothing else has come yet. -/
def expandTabs (tabs : TabStops) (initial : Bool) : (column : Nat) → (isOpen : Bool) → Octets → Octets
  | _, _, [] => []
  | column, isOpen, c :: rest =>
    if c = '\n' then c :: expandTabs tabs initial 0 true rest
    else if !isOpen then c :: expandTabs tabs initial column false rest
    else
      let still := !initial || c = ' ' || c = '\t'
      if c = '\t' then
        let stop := (tabs.next? column).getD (column + 1)
        List.replicate (stop - column) ' ' ++ expandTabs tabs initial stop still rest
      else
        c :: expandTabs tabs initial (if c = '\x08' then column - 1 else column + 1) still rest

/-- What is known of a line in which blanks become tabs. -/
structure Unexpanding where
  column : Nat := 0
  isOpen : Bool := true
  /-- Blanks of which it is not known yet what becomes of them. -/
  pending : Octets := []
  /-- A single blank stands in front of a stop. -/
  oneBefore : Bool := false
  afterBlank : Bool := true
  deriving Repr, DecidableEq

namespace Unexpanding

def kept (line : Unexpanding) : Octets :=
  if 1 < line.pending.length && line.oneBefore then '\t' :: line.pending.drop 1 else line.pending

/-- Go on behind a character that has been written with what was kept. -/
def passed (line : Unexpanding) (whole blank : Bool) (column : Nat) : Unexpanding :=
  { column, isOpen := line.isOpen && (whole || blank), afterBlank := blank }

/-- Take a character; gives what is written, and the line then. -/
def take (tabs : TabStops) (whole : Bool) (line : Unexpanding) (c : Char) : Octets × Unexpanding :=
  if !line.isOpen then ([c], line)
  else if c = ' ' || c = '\t' then
    match tabs.next? line.column with
    | none => (line.kept ++ [c], { line.passed whole true line.column with isOpen := false })
    | some stop =>
      let column := if c = '\t' then stop else line.column + 1
      if c = ' ' && !(line.afterBlank && column = stop) then
        ([], { line with
          column, oneBefore := line.oneBefore || column = stop
          pending := line.pending ++ [c], afterBlank := true })
      else
        let pending : Octets := if line.oneBefore then ['\t'] else []
        (pending ++ ['\t'], line.passed whole true column)
  else
    let column := if c = '\x08' then line.column - 1 else line.column + 1
    (line.kept ++ [c], line.passed whole false column)

end Unexpanding

/-- A text with tabs in the place of blanks. -/
def unexpandTabs (tabs : TabStops) (whole : Bool) : Unexpanding → Octets → Octets
  | line, [] => line.kept
  | line, c :: rest =>
    let (written, after) := line.take tabs whole c
    written ++ unexpandTabs tabs whole (if c = '\n' then {} else after) rest

def changeTabs (call : Call) (convert : TabStops → Octets → Octets) : Act Nat := do
  let asked := (call.options.filter fun option => option.1 = 't').map (·.2)
  match TabStops.read (Text.joinWith ',' asked) with
  | .error message =>
    complainAs call.name message
    return 1
  | .ok tabs =>
    let mut good := true
    for path in call.inputs do
      match ← readOperand path with
      | .ok text => print (convert tabs text)
      | .error cause =>
        complainOfFile call.name path cause
        good := false
    return if good then 0 else 1

/-- Put blanks in the place of tabs. -/
def expandFiles : Tool := fun _ name words =>
  withTable { flags := "i", valued := "t", long := [("initial", 'i'), ("tabs", 't')] } 1
    (fun call => changeTabs call fun tabs => expandTabs tabs (call.has 'i') 0 true)
    name (withPlainWidth 't' ['i'] false words)

/-- Put tabs in the place of blanks. -/
def unexpandFiles : Tool := fun _ name words =>
  withTable { flags := "af", valued := "t", long := [("all", 'a'), ("first-only", 'f'), ("tabs", 't')] } 1
    (fun call =>
      let whole := (call.has 'a' || call.has 't') && !call.has 'f'
      changeTabs call fun tabs => unexpandTabs tabs whole {})
    name (withPlainWidth 't' ['a'] false words)

end AsmLayout.Host
