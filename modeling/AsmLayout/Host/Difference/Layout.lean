import AsmLayout.Host.Difference

/-! # How changes are shown

A change is shown by itself or, with the lines around it, together with others that are near.
-/

namespace AsmLayout.Host.Difference

open Text (Octets)

/-- The shape in which changes are shown. -/
inductive Shape where
  | plain
  /-- Both sequences in one, with some lines around the changes. -/
  | merged (around : Nat)
  /-- Both sequences one after the other, with some lines around the changes. -/
  | facing (around : Nat)
  /-- As commands for an editor of lines, the last change first. -/
  | commands
  /-- As commands that count lines. -/
  | counted
  deriving Repr, DecidableEq

/-- How many lines are shown around changes. -/
def Shape.around : Shape → Nat
  | .merged n | .facing n => n
  | _ => 0

/-- Two sequences of lines; a line has its line feed, the last one perhaps not. -/
structure Sides where
  xs : Array Octets
  ys : Array Octets
  deriving Repr, DecidableEq

/-- A line behind its mark. It is told if its line feed is missing. -/
def markedLine (mark line : Octets) : Octets :=
  mark ++ line ++
    if line.getLast? = some '\n' then [] else Text.octets "\n\\ No newline at end of file\n"

def markedLines (mark : Octets) (lines : Array Octets) (start count : Nat) : Octets :=
  (lines.extract start (start + count)).toList.flatMap (markedLine mark)

/-- The numbers of the first and the last line of a part. A part without lines has the number of the line
    in front. -/
def rangeText (start count : Nat) : Octets :=
  if 1 < count then Text.decimal (start + 1) ++ ',' :: Text.decimal (start + count)
  else if count = 1 then Text.decimal (start + 1) else Text.decimal start

def Change.letter (change : Change) : Char :=
  if change.xCount = 0 then 'a' else if change.yCount = 0 then 'd' else 'c'

def plainText (sides : Sides) (change : Change) : Octets :=
  rangeText change.xStart change.xCount ++ change.letter :: rangeText change.yStart change.yCount ++
    '\n' :: markedLines ['<', ' '] sides.xs change.xStart change.xCount ++
    (if change.letter = 'c' then ['-', '-', '-', '\n'] else []) ++
    markedLines ['>', ' '] sides.ys change.yStart change.yCount

/-- Lines that are put in by an editor. A line with only a dot would end the input. -/
def inputText : (typing : Bool) → List Octets → Octets
  | typing, [] => if typing then ['.', '\n'] else []
  | typing, line :: lines =>
    (if typing then [] else ['a', '\n']) ++
      if line = ['.', '\n'] then Text.octets "..\n.\ns/.//\n" ++ inputText false lines
      else line ++ inputText true lines

/-- A change as a command for an editor of lines. -/
def commandText (sides : Sides) (change : Change) : Octets :=
  let lines := (sides.ys.extract change.yStart (change.yStart + change.yCount)).toList
  rangeText change.xStart change.xCount ++ change.letter :: '\n' ::
    if change.yCount = 0 then [] else inputText true lines

/-- A change as commands that count lines. -/
def countedText (sides : Sides) (change : Change) : Octets :=
  let counted (letter : Char) (line count : Nat) : Octets :=
    if count = 0 then []
    else letter :: Text.decimal line ++ ' ' :: Text.decimal count ++ ['\n']
  let lines := (sides.ys.extract change.yStart (change.yStart + change.yCount)).toList
  counted 'd' (change.xStart + 1) change.xCount ++
    counted 'a' (change.xStart + change.xCount) change.yCount ++ lines.flatten

/-! ## Changes together -/

/-- Changes that are shown together. -/
abbrev Hunk := List Change

/-- Cut changes into those that are shown together, because the lines around them touch. A change that does
    not matter has to be nearer to the one in front. -/
def hunksOf (around : Nat) (matters : Change → Bool) : List Change → List Hunk
  | [] => []
  | [change] => [[change]]
  | change :: next :: changes =>
    let gap := next.xStart - (change.xStart + change.xCount)
    let isNear := if matters next then gap ≤ 2 * around else gap < around
    match hunksOf around matters (next :: changes) with
    | hunk :: hunks => if isNear then (change :: hunk) :: hunks else [change] :: hunk :: hunks
    | [] => [[change]]

/-- The lines that are shown of a hunk, as a change. -/
def spanOf (around : Nat) (sides : Sides) (hunk : Hunk) : Change :=
  let first := hunk.headD ⟨0, 0, 0, 0⟩
  let last := hunk.getLastD first
  let xStart := first.xStart - around
  let yStart := first.yStart - around
  let xStop := min (last.xStart + last.xCount + around) sides.xs.size
  let yStop := min (last.yStart + last.yCount + around) sides.ys.size
  ⟨xStart, xStop - xStart, yStart, yStop - yStart⟩

/-- The number of the first line of a part and how many there are, unless it is one. -/
def countText (start count : Nat) : Octets :=
  if count = 0 then Text.decimal start ++ [',', '0']
  else if count = 1 then Text.decimal (start + 1)
  else Text.decimal (start + 1) ++ ',' :: Text.decimal count

/-- The lines of a hunk in one sequence, from a line of the first one on. -/
def mergedLines (sides : Sides) (stop : Nat) : (start : Nat) → Hunk → Octets
  | start, [] => markedLines [' '] sides.xs start (stop - start)
  | start, change :: changes =>
    markedLines [' '] sides.xs start (change.xStart - start) ++
      markedLines ['-'] sides.xs change.xStart change.xCount ++
      markedLines ['+'] sides.ys change.yStart change.yCount ++
      mergedLines sides stop (change.xStart + change.xCount) changes

/-- A hunk with both sequences in one. -/
def mergedText (around : Nat) (sides : Sides) (hunk : Hunk) : Octets :=
  let span := spanOf around sides hunk
  Text.octets "@@ -" ++ countText span.xStart span.xCount ++ [' ', '+'] ++
    countText span.yStart span.yCount ++ Text.octets " @@\n" ++
    mergedLines sides (span.xStart + span.xCount) span.xStart hunk

/-- The lines of one sequence in a hunk, from a line on. A change is given as its start, its size, and
    whether the other sequence has lines in its place. -/
def facingLines (mark : Char) (lines : Array Octets) (stop : Nat) :
    (start : Nat) → List (Nat × Nat × Bool) → Octets
  | start, [] => markedLines [' ', ' '] lines start (stop - start)
  | start, (changeStart, count, replaced) :: changes =>
    markedLines [' ', ' '] lines start (changeStart - start) ++
      markedLines [if replaced then '!' else mark, ' '] lines changeStart count ++
      facingLines mark lines stop (changeStart + count) changes

/-- A hunk with the sequences one after the other. A sequence in which nothing changes is not shown. -/
def facingText (around : Nat) (sides : Sides) (hunk : Hunk) : Octets :=
  let span := spanOf around sides hunk
  let firsts := hunk.map fun change => (change.xStart, change.xCount, change.yCount != 0)
  let seconds := hunk.map fun change => (change.yStart, change.yCount, change.xCount != 0)
  Text.octets "***************\n*** " ++ rangeText span.xStart span.xCount ++ Text.octets " ****\n" ++
    (if firsts.any fun (_, count, _) => count != 0 then
      facingLines '-' sides.xs (span.xStart + span.xCount) span.xStart firsts else []) ++
    Text.octets "--- " ++ rangeText span.yStart span.yCount ++ Text.octets " ----\n" ++
    (if seconds.any fun (_, count, _) => count != 0 then
      facingLines '+' sides.ys (span.yStart + span.yCount) span.yStart seconds else [])

/-- The texts of the changes that matter, or that are shown together with such ones. -/
def textsOf (shape : Shape) (matters : Change → Bool) (sides : Sides) (changes : List Change) :
    List Octets :=
  let alone := changes.filter matters
  let together (around : Nat) : List Hunk :=
    (hunksOf around matters changes).filter fun hunk => hunk.any matters
  match shape with
  | .plain => alone.map (plainText sides)
  | .commands => alone.reverse.map (commandText sides)
  | .counted => alone.map (countedText sides)
  | .merged around => (together around).map (mergedText around sides)
  | .facing around => (together around).map (facingText around sides)

end AsmLayout.Host.Difference
