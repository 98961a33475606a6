import AsmLayout.Host.Regex.Reader

/-! # Instructions of the stream editor

The editor takes line after line and follows a list of instructions for each of them. An instruction can be
limited to some lines.
-/

namespace AsmLayout.Host.Editor

open Text (Octets)

inductive Address where
  | line (number : Nat)
  | last
  /-- A line that an expression fits, the last one used if there is none. -/
  | fitting (regex : Option Regex) (folded : Bool)
  /-- Every line that is a number of steps behind the first one. -/
  | every (first step : Nat)
  deriving Repr, DecidableEq

/-- What tells the last line of a range. -/
inductive RangeEnd where
  | address (address : Address)
  /-- So many lines further. -/
  | further (count : Nat)
  /-- The next line whose number is a multiple. -/
  | multiple (step : Nat)
  deriving Repr, DecidableEq

structure Selection where
  first : Option Address := none
  last : Option RangeEnd := none
  negated : Bool := false
  deriving Repr, DecidableEq

inductive ReplacementPart where
  | text (text : Octets)
  /-- What a group has fitted; group zero is the whole fit. -/
  | group (number : Nat)
  /-- From here on letters are changed: `U` and `L` all of them, `u` and `l` the next one, `E` no more. -/
  | letters (change : Char)
  deriving Repr, DecidableEq

structure Substitution where
  regex : Option Regex
  folded : Bool
  replacement : List ReplacementPart
  /-- All fits from the numbered one on are replaced, not only that one. -/
  everywhere : Bool
  number : Nat
  printing : Bool
  file : Option Octets
  deriving Repr, DecidableEq

/-- What an instruction does. Places in the list of instructions are given by their numbers. -/
inductive Action where
  /-- The instructions up to a place are for the selected lines only. -/
  | block (stop : Nat)
  | nothing
  | append (text : Octets)
  | insert (text : Octets)
  | change (text : Octets)
  | jump (target : Nat)
  /-- Jump if something has been substituted since the last line was read or jump was made, or if not. -/
  | jumpIf (substituted : Bool) (target : Nat)
  | delete
  | deleteFirst
  | get (appending : Bool)
  | hold (appending : Bool)
  | exchange
  | list
  | next
  | nextAppended
  | print
  | printFirst
  | printNumber
  | printName
  | quit (printing : Bool) (status : Nat)
  | readFile (path : Octets)
  | writeFile (path : Octets) (firstOnly : Bool)
  | substitute (substitution : Substitution)
  | translate (pairs : List (Char × Char))
  | clear
  deriving Repr, DecidableEq

structure Instruction where
  selection : Selection
  action : Action
  deriving Repr, DecidableEq

/-- The instructions in order, and whether lines are printed at the end only if told so. -/
structure Script where
  instructions : List Instruction
  silent : Bool
  deriving Repr, DecidableEq

/-- The file that an action writes to. -/
def Action.target? : Action → Option Octets
  | writeFile path _ => some path
  | substitute substitution => substitution.file
  | _ => none

/-- The files that are written to, each one once. -/
def Script.targets (script : Script) : List Octets :=
  (script.instructions.filterMap fun instruction => instruction.action.target?).eraseDups

end AsmLayout.Host.Editor
