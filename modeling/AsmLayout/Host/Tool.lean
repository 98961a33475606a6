import AsmLayout.Host.Quotes
import AsmLayout.Host.Shell.Session

/-! # Tools

A tool is a program that is called with options and operands. It tells its mistakes under the name by which
it was called.
-/

namespace AsmLayout.Host

open Text (Octets)

/-- A program that may start others. -/
abbrev Tool := Launcher → Program

/-- The options that a tool knows. -/
structure OptionTable where
  flags : String := ""
  valued : String := ""
  /-- Options whose long name may have an argument behind an equals sign, but need not. -/
  optional : String := ""
  /-- The letters that long names stand for. -/
  long : List (String × Char) := []
  /-- Whether options may stand behind operands. -/
  mixed : Bool := true
  /-- Whether the tool names itself also where it says where to read about its words. -/
  signed : Bool := false

/-- The words that a tool was called with. -/
structure Call where
  name : Octets
  options : List (Char × Octets)
  operands : List Octets
  deriving Repr, DecidableEq

namespace Call

def has (call : Call) (letter : Char) : Bool :=
  call.options.any fun option => option.1 = letter

/-- The argument of an option that was given, the last one if there are more. -/
def value? (call : Call) (letter : Char) : Option Octets :=
  call.options.reverse.lookup letter

def last? (call : Call) (letters : List Char) : Option Char :=
  (call.options.reverse.find? fun option => letters.contains option.1).map (·.1)

end Call

/-- Put options in front of those of a call. -/
def addOptions (options : List (Char × Octets)) (found : List (Char × Octets) × List Octets) :
    List (Char × Octets) × List Octets :=
  (options ++ found.1, found.2)

/-- The options that the letters of a word stand for, and whether the last one takes the next word as its
    argument. -/
def lettersOf (table : OptionTable) : Octets → Except Octets (List (Char × Octets) × Option Char)
  | [] => .ok ([], none)
  | c :: rest =>
    if table.flags.toList.contains c then do
      let (others, open?) ← lettersOf table rest
      return ((c, []) :: others, open?)
    else if table.valued.toList.contains c then
      if rest.isEmpty then .ok ([], some c) else .ok ([(c, rest)], none)
    else .error (ascii "invalid option -- '" ++ [c, '\''])

/-- The letter of a long name, which may be cut short where that is clear. -/
def longLetter (table : OptionTable) (name : Octets) : Except Octets Char :=
  let text := String.ofList name
  match table.long.lookup text with
  | some letter => .ok letter
  | none =>
    match table.long.filter fun entry => entry.1.startsWith text with
    | [(_, letter)] => .ok letter
    | [] => .error (ascii "unrecognized option '--" ++ name ++ ['\''])
    | _ => .error (ascii "option '--" ++ name ++ ascii "' is ambiguous")

/-- Tell options and operands apart. -/
def splitWords (table : OptionTable) :
    (fuel : Nat) → List Octets → Except Octets (List (Char × Octets) × List Octets)
  | 0, words => .ok ([], words)
  | _, [] => .ok ([], [])
  | fuel + 1, word :: words =>
    match word with
    | ['-', '-'] => .ok ([], words)
    | '-' :: '-' :: long => do
      let name := long.takeWhile (· != '=')
      let letter ← longLetter table name
      let mayTake := table.optional.toList.contains letter
      let takes := table.valued.toList.contains letter && !mayTake
      if long.length = name.length then
        if takes then
          match words with
          | [] => throw (ascii "option '--" ++ name ++ ascii "' requires an argument")
          | argument :: words => return addOptions [(letter, argument)] (← splitWords table fuel words)
        else return addOptions [(letter, [])] (← splitWords table fuel words)
      else if takes || mayTake then
        return addOptions [(letter, long.drop (name.length + 1))] (← splitWords table fuel words)
      else throw (ascii "option '--" ++ name ++ ascii "' doesn't allow an argument")
    | '-' :: c :: letters => do
      let (found, open?) ← lettersOf table (c :: letters)
      match open?, words with
      | none, words => return addOptions found (← splitWords table fuel words)
      | some letter, argument :: words =>
        return addOptions (found ++ [(letter, argument)]) (← splitWords table fuel words)
      | some letter, [] =>
        throw (ascii "option requires an argument -- '" ++ [letter, '\''])
    | word =>
      if table.mixed then do
        let (options, operands) ← splitWords table fuel words
        return (options, word :: operands)
      else return ([], word :: words)

/-- Tell a mistake under the name of a tool. -/
def complainAs (name message : Octets) : Act Unit :=
  complain (name ++ ascii ": " ++ message)

/-- Tell a mistake in the words of a call, and where to read about them. -/
def complainOfWords (name message : Octets) (signed : Bool := false) : Act Unit := do
  complainAs name message
  let advice := ascii "Try '" ++ name ++ ascii " --help' for more information."
  if signed then complainAs name advice else complain advice

/-- A tool with options. `failure` is its status when its words make no sense. -/
def withTable (table : OptionTable) (failure : Nat) (act : Call → Act Nat) : Program :=
  fun name words => do
    match splitWords table (words.length + 1) words with
    | .error message =>
      complainOfWords name message table.signed
      return .exited failure
    | .ok (options, operands) => return .exited (← act { name, options, operands })

/-- What a tool says when it cannot print, and its status. -/
def outputFailure (tool : String) (cause : IoError) : String × Nat :=
  let reason := ": " ++ cause.wording
  match tool with
  | "wc" => ("write error", 1)
  | "tee" => ("'standard output'" ++ reason, 1)
  | "yes" => ("standard output" ++ reason, 1)
  | "cmp" => ("standard output" ++ reason, 2)
  | "sed" => ("couldn't flush stdout" ++ reason, 4)
  | "sort" => ("write failed: 'standard output'" ++ reason, 2)
  | "grep" | "egrep" | "fgrep" | "ls" | "printenv" => ("write error" ++ reason, 2)
  | "expr" => ("write error" ++ reason, 3)
  | "env" => ("write error" ++ reason, 125)
  | _ => ("write error" ++ reason, 1)

/-- Run a tool that fails if it cannot print. -/
def withOutput (tool : String) (name : Octets) (act : Act Ending) : Act Ending := do
  let ending ← act
  match (← get).unprinted?, ending with
  | some cause, .exited _ =>
    modify fun p => { p with unprinted? := none }
    let (message, status) := outputFailure tool cause
    complainAs name (ascii message)
    return .exited status
  | _, _ => return ending

def fileName (text : Octets) : Octets :=
  if needsQuotes text || text.contains ':' then inQuotes text else text

/-- Tell why something cannot be done with a file. -/
def complainOfFile (name path : Octets) (cause : IoError) : Act Unit :=
  complainAs name (fileName path ++ ascii (": " ++ cause.wording))

/-- The bytes of an operand: a dash stands for what the tool reads. -/
def readOperand (path : Octets) : Act (Except IoError Octets) :=
  if path == ['-'] then readAll 0 else readFile path

/-- The operands of a call, what the tool reads if there are none. -/
def Call.inputs (call : Call) : List Octets :=
  if call.operands.isEmpty then [['-']] else call.operands

/-- Read operands one after the other; gives the bytes of those that can be read, and whether all could
    be. -/
def readAllOperands (name : Octets) (paths : List Octets) : Act (List Octets × Bool) := do
  let mut found : List Octets := []
  let mut good := true
  for path in paths do
    match ← readOperand path with
    | .ok bytes => found := found ++ [bytes]
    | .error cause =>
      complainOfFile name path cause
      good := false
  return (found, good)

def cutLines : Octets → List Octets
  | [] => []
  | c :: rest =>
    match cutLines rest with
    | [] => [[c]]
    | line :: lines => if c = '\n' then [c] :: line :: lines else (c :: line) :: lines

/-- Items in groups of at most so many. -/
def groupsOf {α : Type} (size : Nat) : (fuel : Nat) → List α → List (List α)
  | 0, _ | _, [] => []
  | fuel + 1, items => items.take size :: groupsOf size fuel (items.drop size)

/-- A natural number, with or without a letter that multiplies it. -/
def sizeOf? (text : Octets) : Option Nat :=
  let digits := text.takeWhile Char.isDigit
  let n := (String.ofList digits).toNat?
  match n, text.drop digits.length with
  | some n, [] => some n
  | some n, unit =>
    let units := [("b", 512), ("k", 1024), ("K", 1024), ("M", 1048576), ("G", 1073741824), ("kB", 1000),
      ("KB", 1000), ("MB", 1000000), ("GB", 1000000000), ("KiB", 1024), ("MiB", 1048576)]
    (units.lookup (String.ofList unit)).map (n * ·)
  | none, _ => none

/-- A text with blanks in front up to a width. -/
def alignRight (width : Nat) (text : Octets) : Octets :=
  List.replicate (width - text.length) ' ' ++ text

end AsmLayout.Host
