import AsmLayout.Host.Editor

/-! # Following instructions

The editor holds one line, its pattern, and a second text that is kept from line to line. What is to follow
a line waits until its turn is over.
-/

namespace AsmLayout.Host.Editor

open Text (Octets)

structure InputLine where
  text : Octets
  /-- Whether the line has an end of its own. -/
  ended : Bool
  /-- The file that it comes from. -/
  file : Octets
  /-- Whether it is the last one of its file or of all, depending on how files are taken. -/
  last : Bool
  deriving Repr, DecidableEq

inductive RangeState where
  /-- It ends with a line of a number. -/
  | untilLine (number : Nat)
  | untilAddress (address : Address)
  deriving Repr, DecidableEq

structure State where
  input : List InputLine
  current : InputLine
  number : Nat := 0
  pattern : Octets := []
  kept : Octets := []
  /-- What is printed when the turn of the line is over. -/
  waiting : List Octets := []
  ranges : List (Nat × RangeState) := []
  /-- Ranges that cannot start again. -/
  substituted : Bool := false
  used : Option (Regex × Bool) := none
  /-- The parts of what is printed, the last one first. -/
  printed : List Octets := []
  /-- Whether the end of the last line is still to be printed. -/
  unended : Bool := false
  /-- What is written to files, the last text first. -/
  written : List (Octets × Octets) := []
  /-- An expression was to be used again that has not been used. -/
  lost : Bool := false

def State.output (s : State) : Octets :=
  s.printed.reverse.flatten

abbrev Editing := StateM State

/-- How the turn of a line goes on. -/
inductive Flow where
  | onward (place : Nat)
  /-- The turn is over, and the pattern is printed. -/
  | over
  /-- The turn is over, and nothing is printed. -/
  | dropped
  /-- The turn starts again with what is left of the pattern. -/
  | again
  | ended (printing : Bool) (status : Nat)
  deriving Repr, DecidableEq

/-- How the editor is told to work. -/
structure Manner where
  silent : Bool
  /-- What ends a line. -/
  ending : Char := '\n'
  /-- The bytes of files. -/
  read : Octets → Octets

/-- Print a text that ends by itself. -/
def emit (text : Octets) : Editing Unit :=
  modify fun s =>
    { s with printed := text :: (if s.unended then ['\n'] :: s.printed else s.printed), unended := false }

/-- Print a line that ends as the current one does. -/
def emitLine (manner : Manner) (text : Octets) : Editing Unit := do
  emit text
  if (← get).current.ended then modify fun s => { s with printed := [manner.ending] :: s.printed }
  else modify fun s => { s with unended := true }

def emitWaiting : Editing Unit := do
  for text in (← get).waiting do
    if !text.isEmpty then emit text
  modify fun s => { s with waiting := [] }

/-- Take the next line, if there is one. -/
def nextLine? : Editing (Option Octets) := do
  let s ← get
  match s.input with
  | [] => return none
  | line :: input =>
    set { s with input, current := line, number := s.number + 1 }
    return some line.text

/-- The expression to use, remembered as the last one. -/
def useRegex (regex : Option Regex) (folded : Bool) : Editing (Option (Regex × Bool)) := do
  match regex with
  | some regex =>
    modify fun s => { s with used := some (regex, folded) }
    return some (regex, folded)
  | none =>
    let used := (← get).used
    if used.isNone then modify fun s => { s with lost := true }
    return used

/-- Whether an address tells the current line. -/
def tells (address : Address) : Editing Bool := do
  let s ← get
  match address with
  | .line n => return s.number = n
  | .last => return s.current.last
  | .every first step =>
    return if step = 0 then s.number = first else first ≤ s.number && (s.number - first) % step = 0
  | .fitting regex folded =>
    match ← useRegex regex folded with
    | some (regex, folded) => return regex.occurs folded s.pattern
    | none => return false

/-- Start a range at the current line, if it goes on behind it. -/
def startRange (place : Nat) (last : RangeEnd) : Editing Unit := do
  let n := (← get).number
  let enter (state : RangeState) : Editing Unit :=
    modify fun s => { s with ranges := (place, state) :: s.ranges }
  let enterUntil (stop : Nat) : Editing Unit :=
    if n < stop then enter (.untilLine stop) else return ()
  match last with
  | .address (.line stop) => enterUntil stop
  | .address address => enter (.untilAddress address)
  | .further count => enterUntil (n + count)
  | .multiple step => if step = 0 then return () else enterUntil ((n + step - 1) / step * step)

def leaveRange (place : Nat) : Editing Unit :=
  modify fun s => { s with ranges := s.ranges.filter fun entry => entry.1 != place }

/-- Whether the current line is selected, apart from negation, and whether it is the last of its range. -/
def isSelected (place : Nat) (selection : Selection) : Editing (Bool × Bool) := do
  match selection.first, selection.last with
  | none, _ => return (true, true)
  | some first, none => return (← tells first, true)
  | some first, some last =>
    match (← get).ranges.lookup place with
    | some (.untilLine stop) =>
      let n := (← get).number
      if stop ≤ n then leaveRange place
      return (n ≤ stop, stop ≤ n)
    | some (.untilAddress address) =>
      let ends ← tells address
      if ends then leaveRange place
      return (true, ends)
    | none =>
      if !(← tells first) then return (false, false)
      startRange place last
      return (true, ((← get).ranges.lookup place).isNone)

/-- Change the case of letters in a text; `once` is for its first letter only. -/
def changeLetters (change : Option Char) (once : Option Char) (text : Octets) : Octets :=
  let all := match change with
    | some 'U' => text.map Char.toUpper
    | some 'L' => text.map Char.toLower
    | _ => text
  match once, all with
  | some 'u', c :: rest => c.toUpper :: rest
  | some 'l', c :: rest => c.toLower :: rest
  | _, all => all

/-- The text that takes the place of a fit. -/
def replacementText (subject : Regex.Subject) (start : Nat) (fit : Regex.Fit) :
    (change once : Option Char) → List ReplacementPart → Octets
  | _, _, [] => []
  | change, once, part :: parts =>
    let put (text : Octets) : Octets :=
      changeLetters change once text ++ replacementText subject start fit change
        (if text.isEmpty then once else none) parts
    match part with
    | .text text => put text
    | .group 0 => put (subject.part start fit.position)
    | .group n =>
      match fit.groups.lookup n with
      | some (start, stop) => put (subject.part start stop)
      | none => put []
    | .letters c =>
      if c = 'u' || c = 'l' then replacementText subject start fit change (some c) parts
      else replacementText subject start fit (if c = 'E' then none else some c) none parts

/-- The text from a position on with fits replaced, and whether any were. `count` is the number of the
    next fit, and `last` the place where the one before ended. -/
def replaceFrom (regex : Regex) (subject : Regex.Subject) (substitution : Substitution) :
    (fuel : Nat) → (position count : Nat) → (last : Option Nat) → Octets × Bool
  | 0, position, _, _ => (subject.part position subject.text.size, false)
  | fuel + 1, position, count, last =>
    match regex.find? subject position with
    | none => (subject.part position subject.text.size, false)
    | some (start, fit) =>
      let front := subject.part position start
      let stop := fit.position
      let empty := stop == start
      let after := if empty then subject.part stop (stop + 1) else []
      let next := if empty then stop + 1 else stop
      if empty && last = some start then
        let (rest, found) := replaceFrom regex subject substitution fuel next count none
        (front ++ after ++ rest, found)
      else if count < substitution.number then
        let (rest, found) := replaceFrom regex subject substitution fuel next (count + 1) (some stop)
        (front ++ subject.part start stop ++ after ++ rest, found)
      else
        let here := replacementText subject start fit none none substitution.replacement
        if substitution.everywhere then
          let (rest, _) := replaceFrom regex subject substitution fuel next (count + 1) (some stop)
          (front ++ here ++ after ++ rest, true)
        else (front ++ here ++ subject.part stop subject.text.size, true)

/-- Write a line to a file. -/
def writeTo (path line : Octets) : Editing Unit := do
  if path == "/dev/stdout".toList then emit (line ++ ['\n'])
  else modify fun s => { s with written := (path, line ++ ['\n']) :: s.written }

def substitute (manner : Manner) (substitution : Substitution) : Editing Unit := do
  match ← useRegex substitution.regex substitution.folded with
  | none => return ()
  | some (regex, folded) =>
    let subject : Regex.Subject := { text := (← get).pattern.toArray, folded }
    let (text, found) := replaceFrom regex subject substitution (2 * subject.text.size + 2) 0 1 none
    if found then
      modify fun s => { s with pattern := text, substituted := true }
      if substitution.printing then emitLine manner text
      match substitution.file with
      | some path => writeTo path text
      | none => return ()

def listed (c : Char) : Octets :=
  match c with
  | '\\' => ['\\', '\\']
  | '\x07' => ['\\', 'a']
  | '\x08' => ['\\', 'b']
  | '\x0c' => ['\\', 'f']
  | '\n' => ['\\', 'n']
  | '\r' => ['\\', 'r']
  | '\t' => ['\\', 't']
  | '\x0b' => ['\\', 'v']
  | c =>
    if ' ' ≤ c && c ≤ '~' then [c]
    else
      let digits := Nat.toDigits 8 c.toNat
      '\\' :: List.replicate (3 - digits.length) '0' ++ digits

/-- Pieces put side by side in lines of limited length. -/
def wrap (limit : Nat) : (used : Nat) → List Octets → Octets
  | _, [] => ['$', '\n']
  | used, piece :: pieces =>
    if limit ≤ used + piece.length then '\\' :: '\n' :: piece ++ wrap limit piece.length pieces
    else piece ++ wrap limit (used + piece.length) pieces

/-- The front of a text, up to a line feed. -/
def firstLineOf (text : Octets) : Octets :=
  text.takeWhile (· != '\n')

/-- Do what an instruction says. `ends` tells that the line is the last one of its range. -/
def act (manner : Manner) (place : Nat) (selection : Selection) (ends : Bool) (action : Action) :
    Editing Flow := do
  let onward := Flow.onward (place + 1)
  match action with
  | .block _ | .nothing => return onward
  | .append text =>
    modify fun s => { s with waiting := s.waiting ++ [text] }
    return onward
  | .insert text =>
    emit text
    return onward
  | .change text =>
    if ends || selection.negated then emit text
    return .dropped
  | .jump target => return .onward target
  | .jumpIf substituted target =>
    let was := (← get).substituted
    modify fun s => { s with substituted := false }
    return if was == substituted then .onward target else onward
  | .delete => return .dropped
  | .deleteFirst =>
    let pattern := (← get).pattern
    if !pattern.contains '\n' then return .dropped
    modify fun s => { s with pattern := pattern.drop ((firstLineOf pattern).length + 1) }
    return .again
  | .get appending =>
    modify fun s =>
      { s with pattern := if appending then s.pattern ++ '\n' :: s.kept else s.kept }
    return onward
  | .hold appending =>
    modify fun s =>
      { s with kept := if appending then s.kept ++ '\n' :: s.pattern else s.pattern }
    return onward
  | .exchange =>
    modify fun s => { s with pattern := s.kept, kept := s.pattern }
    return onward
  | .list =>
    emit (wrap 70 1 ((← get).pattern.map listed))
    return onward
  | .next =>
    if (← get).input.isEmpty then return .over
    if !manner.silent then emitLine manner (← get).pattern
    emitWaiting
    match ← nextLine? with
    | some text =>
      modify fun s => { s with pattern := text }
      return onward
    | none => return .over
  | .nextAppended =>
    if (← get).input.isEmpty then return .over
    emitWaiting
    match ← nextLine? with
    | some text =>
      modify fun s => { s with pattern := s.pattern ++ manner.ending :: text }
      return onward
    | none => return .over
  | .print =>
    emitLine manner (← get).pattern
    return onward
  | .printFirst =>
    emit (firstLineOf (← get).pattern ++ ['\n'])
    return onward
  | .printNumber =>
    emit (Text.decimal (← get).number ++ ['\n'])
    return onward
  | .printName =>
    emit ((← get).current.file ++ ['\n'])
    return onward
  | .quit printing status => return .ended printing status
  | .readFile path =>
    modify fun s => { s with waiting := s.waiting ++ [manner.read path] }
    return onward
  | .writeFile path firstOnly =>
    let pattern := (← get).pattern
    writeTo path (if firstOnly then firstLineOf pattern else pattern)
    return onward
  | .substitute substitution =>
    substitute manner substitution
    return onward
  | .translate pairs =>
    modify fun s =>
      { s with pattern := s.pattern.map fun c => (pairs.lookup c).getD c }
    return onward
  | .clear =>
    modify fun s => { s with pattern := [] }
    return onward

def follow (manner : Manner) (instructions : Array Instruction) :
    (fuel : Nat) → (place : Nat) → Editing Flow
  | 0, _ => return .ended false 4
  | fuel + 1, place => do
    match instructions[place]? with
    | none => return .over
    | some instruction =>
      let (selected, ends) ← isSelected place instruction.selection
      if (← get).lost then return .ended false 1
      if selected == instruction.selection.negated then
        match instruction.action with
        | .block stop => follow manner instructions fuel stop
        | _ => follow manner instructions fuel (place + 1)
      else
        match ← act manner place instruction.selection ends instruction.action with
        | .onward next =>
          if (← get).lost then return .ended false 1
          follow manner instructions fuel next
        | flow => return flow

/-- How many instructions are followed for one line at most. -/
def longestTurn : Nat := 1000000

/-- Go through the lines; gives the status. `fresh` tells that the turn starts with a new line. -/
def goThrough (manner : Manner) (instructions : Array Instruction) :
    (fuel : Nat) → (fresh : Bool) → Editing Nat
  | 0, _ => return 0
  | fuel + 1, fresh => do
    if fresh then
      match ← nextLine? with
      | none => return 0
      | some text => modify fun s => { s with pattern := text, substituted := false }
    match ← follow manner instructions longestTurn 0 with
    | .ended printing status =>
      if printing then
        if !manner.silent then emitLine manner (← get).pattern
        emitWaiting
      return status
    | .again =>
      emitWaiting
      goThrough manner instructions fuel false
    | .dropped =>
      emitWaiting
      goThrough manner instructions fuel true
    | _ =>
      if !manner.silent then emitLine manner (← get).pattern
      emitWaiting
      goThrough manner instructions fuel true

def openRanges (instructions : List Instruction) : List (Nat × RangeState) :=
  instructions.zipIdx.filterMap fun (instruction, place) =>
    match instruction.selection.first, instruction.selection.last with
    | some (.line 0), some (.address address) => some (place, .untilAddress address)
    | _, _ => none

/-- Edit lines; gives the status and what the editor knows in the end. -/
def edit (script : Script) (manner : Manner) (lines : List InputLine) : Nat × State :=
  let start : State :=
    { input := lines, current := ⟨[], true, [], true⟩, ranges := openRanges script.instructions }
  let bound := lines.foldl (fun n line => n + line.text.length + 2) 2
  (goThrough manner script.instructions.toArray (2 * bound) true).run start

end AsmLayout.Host.Editor
