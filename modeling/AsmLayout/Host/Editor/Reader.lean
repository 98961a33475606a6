import AsmLayout.Host.Editor

/-! # Reading instructions

The instructions of the stream editor are letters with arguments. A mistake is told with the number of
characters that have been read.
-/

namespace AsmLayout.Host.Editor

open Text (Octets)

/-- Why instructions make no sense. -/
inductive Mistake where
  /-- After so many characters; none says that all have been read. -/
  | after (position : Nat) (message : String)
  | unmatchedBrace
  | noPreviousRegex
  | missingLabel (label : Octets)
  deriving Repr, DecidableEq

structure Source where
  rest : Octets
  position : Nat := 0
  extended : Bool := false
  /-- The instructions so far, the last one first. -/
  instructions : List Instruction := []
  /-- Where the blocks that are open start. -/
  blocks : List Nat := []
  labels : List (Octets × Nat) := []
  /-- The jumps with their labels. -/
  jumps : List (Nat × Octets) := []
  silent : Bool := false

abbrev Reading := StateT Source (Except Mistake)

def mistake {α : Type} (message : String) : Reading α := fun s =>
  .error (.after s.position message)

/-- The next character, which is taken. -/
def take? : Reading (Option Char) :=
  modifyGet fun s =>
    match s.rest with
    | [] => (none, s)
    | c :: rest => (some c, { s with rest, position := s.position + 1 })

def giveBack (c : Option Char) : Reading Unit :=
  match c with
  | some c => modify fun s => { s with rest := c :: s.rest, position := s.position - 1 }
  | none => return ()

def isBlank (c : Char) : Bool :=
  c == ' ' || c == '\t' || c == '\r' || c == '\x0b' || c == '\x0c'

/-- The next character that is no blank. -/
def takeVisible? : Reading (Option Char) := do
  modify fun s =>
    let blanks := (s.rest.takeWhile isBlank).length
    { s with rest := s.rest.drop blanks, position := s.position + blanks }
  take?

/-- The characters that pass a test. -/
def takeWhile (test : Char → Bool) : Reading Octets :=
  modifyGet fun s =>
    let found := s.rest.takeWhile test
    (found, { s with rest := s.rest.drop found.length, position := s.position + found.length })

/-- The digits of a number that starts with one. -/
def takeNumber (first : Char) : Reading Nat := do
  let digits ← takeWhile Char.isDigit
  return (Arithmetic.digits 10 (first :: digits)).1

/-- The text up to a mark, `none` if there is none on the line. Where a regular expression stands a mark in
    brackets does not count. -/
def delimited (mark : Char) (isRegex : Bool) :
    (fuel : Nat) → (inBrackets : Bool) → Reading (Option Octets)
  | 0, _ => return none
  | fuel + 1, inBrackets => do
    let put (front : Octets) (inBrackets : Bool) : Reading (Option Octets) :=
      return (← delimited mark isRegex fuel inBrackets).map (front ++ ·)
    match ← take? with
    | none => return none
    | some '\n' =>
      if isRegex then
        giveBack (some '\n')
        return none
      else put ['\n'] false
    | some c =>
      if inBrackets then put [c] (c != ']')
      else if c = mark then return some []
      else if c = '\\' then
        match ← take? with
        | none => return none
        | some d =>
          if d = mark then put (if isRegex || d != '&' then [d] else ['\\', d]) false
          else if d = 'n' && isRegex then put ['\n'] false
          else put ['\\', d] false
      else if c = '[' && isRegex then
        let negation ← takeWhile (· == '^')
        let bracket ← if (← get).rest.head? = some ']' then
            discard take?
            pure [']']
          else pure []
        put (c :: negation ++ bracket) ((← get).rest.contains ']')
      else put [c] false

def upTo (mark : Char) (isRegex : Bool) (message : String) : Reading Octets := do
  match ← delimited mark isRegex ((← get).rest.length + 1) false with
  | some text => return text
  | none => mistake message

/-- The regular expression of a text, `none` for the last one used. -/
def regexOf (text : Octets) : Reading (Option Regex) := do
  if text.isEmpty then return none
  match Regex.read { extended := (← get).extended, escapes := true } text with
  | .ok regex => return some regex
  | .error message => mistake message

/-- The address that starts with a character, if there is one. -/
def address? (c : Option Char) : Reading (Option Address) := do
  match c with
  | none => return none
  | some '$' => return some .last
  | some c =>
    if c = '/' || c = '\\' then
      let mark ← if c = '/' then pure (some '/') else take?
      let text ← upTo (mark.getD '/') true "unterminated address regex"
      let flags ← takeWhile fun c => c == 'I' || c == 'M'
      return some (.fitting (← regexOf text) (flags.contains 'I'))
    else if c.isDigit then
      let n ← takeNumber c
      match ← takeVisible? with
      | some '~' =>
        match ← takeVisible? with
        | some d =>
          if d.isDigit then return some (.every n (← takeNumber d))
          giveBack (some d)
          return some (.every n 0)
        | none => return some (.every n 0)
      | other =>
        giveBack other
        return some (.line n)
    else return none

/-- The end of a range that starts with a character, if there is one. -/
def rangeEnd? (c : Option Char) : Reading (Option RangeEnd) := do
  let number : Reading Nat := do
    match ← takeVisible? with
    | some d =>
      if d.isDigit then takeNumber d
      else
        giveBack (some d)
        return 0
    | none => return 0
  match c with
  | some '+' => return some (.further (← number))
  | some '~' => return some (.multiple (← number))
  | c => return (← address? c).map .address

/-- The lines that an instruction is for, and its letter. `c` is its first character. -/
def selection (c : Option Char) : Reading (Selection × Option Char) := do
  if c = some '+' || c = some '~' then
    discard takeVisible?
    mistake "invalid usage of +N or ~N as first address"
  let first ← address? c
  let mut found : Selection := { first }
  let mut next := c
  if first.isSome then
    next ← takeVisible?
    if next = some ',' then
      match ← rangeEnd? (← takeVisible?) with
      | none => mistake "unexpected `,'"
      | some last =>
        found := { found with last := some last }
        next ← takeVisible?
    let zero := first = some (.line 0) && (match found.last with
      | some (.address (.fitting _ _)) => false
      | _ => true)
    if zero then mistake "invalid usage of line address 0"
  if next = some '!' then
    found := { found with negated := true }
    next ← takeVisible?
    if next = some '!' then mistake "multiple `!'s"
  return (found, next)

def endInstruction : Reading Unit := do
  match ← takeVisible? with
  | none | some '\n' | some ';' => return ()
  | some c =>
    if c = '\x7d' || c = '#' then giveBack (some c) else mistake "extra characters after command"

/-- A text with the blanks that letters behind a backslash stand for; other backslashes are dropped. -/
def plainText : Octets → Octets
  | '\\' :: 't' :: rest => '\t' :: plainText rest
  | '\\' :: 'n' :: rest => 'n' :: plainText rest
  | '\\' :: c :: rest => c :: plainText rest
  | c :: rest => c :: plainText rest
  | [] => []

/-- The lines of a text: a backslash at the end of a line lets the text go on. -/
def textLines : (fuel : Nat) → Reading Octets
  | 0 => return []
  | fuel + 1 => do
    match ← take? with
    | none | some '\n' => return []
    | some '\\' =>
      match ← take? with
      | none => return ['\\']
      | some c => return '\\' :: c :: (← textLines fuel)
    | some c => return c :: (← textLines fuel)

/-- The text of an instruction that prints it. -/
def textArgument : Reading (Option Octets) := do
  match ← takeVisible? with
  | none => mistake "expected \\ after `a', `c' or `i'"
  | some '\\' =>
    discard (takeWhile isBlank)
    match ← take? with
    | none => return none
    | some '\n' => pure ()
    | other => giveBack other
    if (← get).rest.isEmpty then return none
  | other => giveBack other
  let text ← textLines ((← get).rest.length + 1)
  return some (plainText text ++ ['\n'])

/-- A label or a file, up to the end of the line. -/
def lineArgument : Reading Octets := do
  discard (takeWhile isBlank)
  takeWhile (· != '\n')

/-- The name of a label that is jumped to. -/
def labelArgument : Reading Octets := do
  discard (takeWhile isBlank)
  takeWhile fun c => c != '\n' && c != ';' && !isBlank c && c != '\x7d'

def replacementParts : Octets → List ReplacementPart
  | '\\' :: c :: rest =>
    if c.isDigit then .group (c.toNat - '0'.toNat) :: replacementParts rest
    else if c = 'U' || c = 'L' || c = 'E' || c = 'u' || c = 'l' then
      .letters c :: replacementParts rest
    else
      let found := match c with
        | 'n' => '\n'
        | 't' => '\t'
        | 'r' => '\r'
        | 'f' => '\x0c'
        | 'v' => '\x0b'
        | 'a' => '\x07'
        | c => c
      .text [found] :: replacementParts rest
  | '&' :: rest => .group 0 :: replacementParts rest
  | c :: rest => .text [c] :: replacementParts rest
  | [] => []

def substitutionFlags : (fuel : Nat) → Substitution → Reading Substitution
  | 0, found => return found
  | fuel + 1, found => do
    match ← take? with
    | none | some '\n' | some ';' => return found
    | some 'g' =>
      if found.everywhere then mistake "multiple `g' options to `s' command"
      substitutionFlags fuel { found with everywhere := true }
    | some 'p' =>
      if found.printing then mistake "multiple `p' options to `s' command"
      substitutionFlags fuel { found with printing := true }
    | some 'i' | some 'I' => substitutionFlags fuel { found with folded := true }
    | some 'm' | some 'M' | some 'e' => substitutionFlags fuel found
    | some 'w' =>
      let path ← lineArgument
      if path.isEmpty then mistake "missing filename in r/R/w/W commands"
      return { found with file := some path }
    | some c =>
      if c = '\x7d' || c = '#' then
        giveBack (some c)
        return found
      else if c.isDigit then
        if found.number != 0 then mistake "multiple number options to `s' command"
        let n ← takeNumber c
        if n = 0 then mistake "number option to `s' command may not be zero"
        substitutionFlags fuel { found with number := n }
      else if isBlank c then substitutionFlags fuel found
      else mistake "unknown option to `s'"

/-- How many groups a regular expression has. -/
def groupCount : Regex → Nat
  | .sequence a b | .either a b => max (groupCount a) (groupCount b)
  | .repeated inner _ _ => groupCount inner
  | .group n inner => max n (groupCount inner)
  | _ => 0

/-- A substitution, from behind its letter on. -/
def substitution : Reading Substitution := do
  let unterminated := "unterminated `s' command"
  match ← take? with
  | none => mistake unterminated
  | some mark =>
    let pattern ← upTo mark true unterminated
    let replacement ← upTo mark false unterminated
    let parts := replacementParts replacement
    let found ← substitutionFlags ((← get).rest.length + 1)
      { regex := none, folded := false, replacement := parts, everywhere := false, number := 0
        printing := false, file := none }
    let regex ← regexOf pattern
    let groups := (regex.map groupCount).getD 9
    match parts.find? fun part => match part with
      | .group n => groups < n
      | _ => false with
    | some (.group n) => mistake s!"invalid reference \\{n} on `s' command's RHS"
    | _ => return { found with regex, number := max 1 found.number }

def listCharacters : Octets → Octets
  | '\\' :: '\\' :: rest => '\\' :: listCharacters rest
  | '\\' :: 'n' :: rest => '\n' :: listCharacters rest
  | '\\' :: 't' :: rest => '\t' :: listCharacters rest
  | c :: rest => c :: listCharacters rest
  | [] => []

/-- Characters and what they are changed into, from behind the letter of the instruction on. -/
def changedCharacters : Reading (List (Char × Char)) := do
  let unterminated := "unterminated `y' command"
  match ← take? with
  | none => mistake unterminated
  | some mark =>
    let first := listCharacters (← upTo mark false unterminated)
    let second := listCharacters (← upTo mark false unterminated)
    if first.length != second.length then
      discard take?
      mistake "strings for `y' command are different lengths"
    endInstruction
    return first.zip second

def add (selection : Selection) (action : Action) : Reading Unit :=
  modify fun s => { s with instructions := ⟨selection, action⟩ :: s.instructions }

/-- A number behind an instruction that ends everything. -/
def statusArgument : Reading Nat := do
  match ← takeVisible? with
  | some c =>
    if c.isDigit then takeNumber c
    else
      giveBack (some c)
      return 0
  | none => return 0

/-- The action of a letter without arguments. -/
def plainAction? (letter : Char) : Option Action :=
  match letter with
  | '=' => some .printNumber
  | 'd' => some .delete
  | 'D' => some .deleteFirst
  | 'F' => some .printName
  | 'g' => some (.get false)
  | 'G' => some (.get true)
  | 'h' => some (.hold false)
  | 'H' => some (.hold true)
  | 'n' => some .next
  | 'N' => some .nextAppended
  | 'p' => some .print
  | 'P' => some .printFirst
  | 'z' => some .clear
  | 'x' => some .exchange
  | _ => none

/-- The number of the next instruction. -/
def place : Reading Nat :=
  return (← get).instructions.length

def addText (selection : Selection) (action : Octets → Action) : Reading Unit := do
  match ← textArgument with
  | some text => add selection (action text)
  | none => add selection .nothing

/-- An instruction, from behind its letter on. -/
def instruction (selection : Selection) (letter : Char) : Reading Unit := do
  match plainAction? letter with
  | some action =>
    endInstruction
    add selection action
  | none =>
    match letter with
    | '\x7b' =>
      let here ← place
      modify fun s => { s with blocks := here :: s.blocks }
      add selection (.block 0)
    | '\x7d' =>
      match (← get).blocks with
      | [] => mistake "unexpected `\x7d'"
      | start :: outer =>
        if selection.first.isSome then mistake "\x7d doesn't want any addresses"
        endInstruction
        add {} .nothing
        let here ← place
        modify fun s =>
          { s with
            blocks := outer
            instructions := (s.instructions.reverse.modify start fun opening =>
              { opening with action := .block here }).reverse }
    | 'a' => addText selection .append
    | 'i' => addText selection .insert
    | 'c' => addText selection .change
    | ':' =>
      if selection.first.isSome then mistake ": doesn't want any addresses"
      discard (takeWhile isBlank)
      let label ← takeWhile fun c => c != '\n' && c != ';' && !isBlank c
      if label.isEmpty then mistake "\":\" lacks a label"
      let here ← place
      modify fun s => { s with labels := (label, here) :: s.labels }
    | 'b' | 't' | 'T' =>
      let label ← labelArgument
      let here ← place
      endInstruction
      modify fun s => { s with jumps := (here, label) :: s.jumps }
      add selection (if letter = 'b' then .jump 0 else .jumpIf (letter = 't') 0)
    | 'q' | 'Q' =>
      if selection.last.isSome then mistake "command only uses one address"
      let status ← statusArgument
      endInstruction
      add selection (.quit (letter = 'q') status)
    | 'l' =>
      discard statusArgument
      endInstruction
      add selection .list
    | 'r' | 'R' =>
      let path ← lineArgument
      if path.isEmpty then mistake "missing filename in r/R/w/W commands"
      add selection (.readFile path)
    | 'w' | 'W' =>
      let path ← lineArgument
      if path.isEmpty then mistake "missing filename in r/R/w/W commands"
      add selection (.writeFile path (letter = 'W'))
    | 's' => add selection (.substitute (← substitution))
    | 'y' => add selection (.translate (← changedCharacters))
    | 'v' =>
      discard labelArgument
      endInstruction
    | c => mistake s!"unknown command: `{c}'"

def readInstructions : (fuel : Nat) → Reading Unit
  | 0 => return ()
  | fuel + 1 => do
    discard (takeWhile fun c => isBlank c || c == '\n' || c == ';')
    match ← take? with
    | none => return ()
    | some '#' =>
      let start := (← get).position = 1
      let comment ← takeWhile (· != '\n')
      if start && comment == ['n'] then modify fun s => { s with silent := true }
      readInstructions fuel
    | some c =>
      let (selection, letter) ← selection (some c)
      match letter with
      | none => mistake "missing command"
      | some '#' => mistake "comments don't accept any addresses"
      | some letter =>
        instruction selection letter
        readInstructions fuel

/-- An instruction with the place that it jumps to. -/
def Instruction.aimedAt (instruction : Instruction) (target : Nat) : Instruction :=
  match instruction.action with
  | .jump _ => { instruction with action := .jump target }
  | .jumpIf substituted _ => { instruction with action := .jumpIf substituted target }
  | _ => instruction

/-- Let jumps go to their labels. A jump without a label goes to the end. -/
def aim (labels : List (Octets × Nat)) : List (Nat × Octets) → List Instruction →
    Except Mistake (List Instruction)
  | [], found => .ok found
  | (origin, label) :: jumps, found => do
    let target ← if label.isEmpty then pure found.length
      else match labels.lookup label with
        | some target => pure target
        | none => throw (.missingLabel label)
    aim labels jumps (found.modify origin (·.aimedAt target))

def Script.read (extended : Bool) (text : Octets) : Except Mistake Script := do
  let ((), s) ← (readInstructions (text.length + 1)).run { rest := text, extended }
  if !s.blocks.isEmpty then throw .unmatchedBrace
  return { instructions := ← aim s.labels s.jumps.reverse s.instructions.reverse, silent := s.silent }

end AsmLayout.Host.Editor
