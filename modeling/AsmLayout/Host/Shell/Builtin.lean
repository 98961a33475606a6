import AsmLayout.Host.Shell.Builtin.Flow
import AsmLayout.Host.Shell.Builtin.Variables
import AsmLayout.Host.Shell.Condition
import AsmLayout.Host.Shell.Formatting
import AsmLayout.Host.Shell.Search

/-! # The commands of the shell itself -/

namespace AsmLayout.Host

open Text (Octets)

/-- A command of the shell itself: it is called with words and gives its status. -/
abbrev Builtin := Evaluator → (words : List Octets) → Shell Nat

def echo (words : List Octets) : Shell Nat := do
  say (echoed words)
  return 0

/-- Print words in a format. -/
def printFormatted (words : List Octets) : Shell Nat := do
  let (_, words) ← optionsOf "" words
  match words with
  | [] => giveUp (ascii "usage: printf format [arg ...]")
  | format :: arguments =>
    let (mistake, formatting) := formatted .shell format arguments
    for warning in formatting.warnings do
      let text := match warning.misfit with
        | .noNumber => ": expected numeric value"
        | .incomplete => ": not completely converted"
        | .outOfRange => ": Numerical result out of range"
        | .ignored => ""
      warn (warning.argument ++ ascii text)
    say formatting.output
    match mistake with
    | some message => giveUp (ascii message)
    | none => return if formatting.warnings.isEmpty then 0 else 1

def testWords (words : List Octets) : Shell Nat := do
  match ← onProcess (Condition.check words) with
  | .ok true => return 0
  | .ok false => return 1
  | .error message => giveUp message

/-- Look at a condition in brackets. -/
def testBracket (words : List Octets) : Shell Nat :=
  if words.getLast? = some [']'] then testWords words.dropLast else giveUp (ascii "missing ]")

/-- The words by which some commands are called. -/
def specialNames : List String := specialCommands

/-- The names of the commands of the shell itself, without those that belong to the language. -/
def regularNames : List String :=
  ["[", "alias", "bg", "cd", "chdir", "command", "echo", "false", "fg", "getopts", "hash", "jobs",
   "kill", "printf", "pwd", "read", "test", "true", "type", "ulimit", "umask", "unalias",
   "wait"]

/-- The place of a word in a table of so many rows, which are shown one after the other. -/
def tablePlace (rows : Nat) (name : Octets) : Nat :=
  ((name.map Char.toNat).foldl (· + ·) ((name.head?.map Char.toNat).getD 0 * 16)) % rows

/-- Show the text that a word stands for. -/
def showAlias (name text : Octets) : Shell Unit :=
  sayLine (name ++ '=' :: quoteText text)

/-- Let words stand for texts, or show which do. -/
def setAliases (words : List Octets) : Shell Nat := do
  if words.isEmpty then
    let all := (← get).aliases.mergeSort fun a b => tablePlace 39 a.1 ≤ tablePlace 39 b.1
    for (name, text) in all do showAlias name text
  let mut status := 0
  for word in words do
    let front := (word.drop 1).takeWhile (· != '=')
    if word.length ≤ front.length + 1 then
      match (← get).aliases.lookup word with
      | some text => showAlias word text
      | none =>
        onProcess (complain (ascii "alias: " ++ word ++ ascii " not found"))
        status := 1
    else
      let name := word.take (front.length + 1)
      let text := word.drop (front.length + 2)
      modify fun s =>
        { s with aliases :=
            if (s.aliases.lookup name).isSome then
              s.aliases.map fun entry => if entry.1 == name then (name, text) else entry
            else s.aliases ++ [(name, text)] }
  return status

/-- Let words stand for themselves again. -/
def dropAliases (words : List Octets) : Shell Nat := do
  let (options, names) ← optionsOf "a" words
  if !options.isEmpty then
    modify fun s => { s with aliases := [] }
    return 0
  let mut status := 0
  for name in names do
    if ((← get).aliases.lookup name).isSome then
      modify fun s => { s with aliases := s.aliases.filter fun entry => entry.1 != name }
    else
      onProcess (complain (ascii "unalias: " ++ name ++ ascii " not found"))
      status := 1
  return status

/-- Show what a command is; gives whether there is such a command. With `briefly` only its path or its name
    is shown. -/
def describe (briefly : Bool) (name : Octets) : Shell Bool := do
  let text := String.ofList name
  let tell (short : Octets) (long : String) : Shell Unit :=
    sayLine (if briefly then short else name ++ ascii (" is " ++ long))
  if keywords.contains text then tell name "a shell keyword"
  else if let some replacement := (← get).aliases.lookup name then
    if briefly then sayLine (ascii "alias " ++ name ++ '=' :: quoteText replacement)
    else sayLine (name ++ ascii " is an alias for " ++ replacement)
  else if specialNames.contains text then tell name "a special shell builtin"
  else if ((← get).functions.lookup name).isSome then tell name "a shell function"
  else if regularNames.contains text then tell name "a shell builtin"
  else if let some path := (← get).remembered.lookup name then
    if briefly then sayLine path else sayLine (name ++ ascii " is a tracked alias for " ++ path)
  else
    let found ← locateProgram name
    let isThere ← match found with
      | .ok path => onProcess (checkProgram path)
      | .error cause => pure (.error cause)
    match found, isThere with
    | .ok path, .ok () =>
      if briefly then sayLine path else sayLine (name ++ ascii " is " ++ path)
    | _, _ =>
      if !briefly then sayLine (name ++ ascii ": not found")
      return false
  return true

def describeAll (briefly : Bool) (names : List Octets) : Shell Nat := do
  let mut status := 0
  for name in names do
    if !(← describe briefly name) then status := 127
  return status

/-- Show what a command is, or do nothing. -/
def showCommand (words : List Octets) : Shell Nat := do
  let (options, names) ← optionsOf "pvV" words
  match options.reverse.find? fun option => option.1 != 'p' with
  | some (letter, _) => describeAll (letter = 'v') (names.take 1)
  | none => return 0

/-- Show the programs that are known by their paths, or make sure that there are programs. -/
def rememberPrograms (words : List Octets) : Shell Nat := do
  let (options, names) ← optionsOf "r" words
  if !options.isEmpty then
    modify fun s => { s with remembered := [] }
    return 0
  if names.isEmpty then
    let all := (← get).remembered.mergeSort fun a b => tablePlace 31 a.1 ≤ tablePlace 31 b.1
    for (_, path) in all do sayLine path
  let mut status := 0
  for name in names do
    modify fun s => { s with remembered := s.remembered.filter fun entry => entry.1 != name }
    if regularNames.contains (String.ofList name) || specialNames.contains (String.ofList name) ||
        ((← get).functions.lookup name).isSome then continue
    match ← locateProgram name with
    | .ok _ => pure ()
    | .error cause =>
      warn (name ++ ascii ": " ++ runningText cause)
      status := 1
  return status

def noJob (words : List Octets) : Shell Nat := do
  let (_, words) ← optionsOf "" words
  match words with
  | [] => giveUp (ascii "No current job")
  | word :: _ => giveUp (ascii "No such job: " ++ word)

/-- Show or set a limit: there is none, so that all can be set. -/
def showLimit (words : List Octets) : Shell Nat := do
  let (_, words) ← optionsOf "HSatfdscmlpnvwr" words
  match words with
  | [] => sayLine (ascii "unlimited")
  | [word] =>
    if !(word == ascii "unlimited" || (!word.isEmpty && word.all Char.isDigit)) then
      giveUp (ascii "bad number")
  | _ => giveUp (ascii "too many arguments")
  return 0

def showTimes : Shell Nat := do
  sayLine (ascii "0m0.000000s 0m0.000000s")
  sayLine (ascii "0m0.000000s 0m0.000000s")
  return 0

def builtin? (name : String) : Option Builtin :=
  match name with
  | "." => some runFile
  | ":" | "true" => some fun _ _ => return 0
  | "[" => some fun _ => testBracket
  | "bg" | "fg" => some fun _ => noJob
  | "break" => some fun _ => leaveLoops .breakLoops
  | "cd" | "chdir" => some fun _ => changeDirectory
  | "alias" => some fun _ => setAliases
  | "unalias" => some fun _ => dropAliases
  | "exec" => some fun _ _ => return 0
  | "command" => some fun _ => showCommand
  | "continue" => some fun _ => leaveLoops .continueLoop
  | "echo" => some fun _ => echo
  | "eval" => some runWords
  | "exit" => some fun _ => leave
  | "export" => some fun _ => exportVariables
  | "false" => some fun _ _ => return 1
  | "getopts" => some fun _ => getOption
  | "hash" => some fun _ => rememberPrograms
  | "jobs" => some fun _ words => do
    let (_, words) ← optionsOf "lp" words
    match words with
    | [] => return 0
    | word :: _ => giveUp (ascii "No such job: " ++ word)
  | "kill" => some fun _ => kill
  | "local" => some fun _ => makeLocal
  | "printf" => some fun _ => printFormatted
  | "pwd" => some fun _ => showDirectory
  | "read" => some fun _ => readLine
  | "readonly" => some fun _ => protectVariables
  | "return" => some fun _ => leaveFunction
  | "set" => some fun _ => change
  | "shift" => some fun _ => shift
  | "test" => some fun _ => testWords
  | "times" => some fun _ _ => showTimes
  | "trap" => some fun _ => setTraps
  | "type" => some fun _ => describeAll false
  | "ulimit" => some fun _ => showLimit
  | "umask" => some fun _ => changeMask
  | "unset" => some fun _ => forget
  | "wait" => some fun _ => waitFor
  | _ => none

/-- Run a command of the shell itself; gives whether it made a mistake that can end the script. -/
def runBuiltin (name : Octets) (act : Shell Nat) : Shell Bool := do
  let before := (← get).running?
  let outer := (← get).output
  modify fun s => { s with running? := some name, output := [] }
  let result ← attempt act
  match result with
  | .ok status => setStatus status
  | .error _ => pure ()
  let printed := (← get).output
  let written ← if printed.isEmpty then pure (.ok ()) else onProcess (write 1 printed)
  match result, written with
  | .ok status, .error _ =>
    warn (name ++ ascii ": I/O error")
    setStatus (status ||| 1)
  | _, _ => pure ()
  modify fun s => { s with running? := before, output := outer }
  match result with
  | .ok _ => return false
  | .error .failed =>
    setStatus 2
    return true
  | .error jump => throw jump

end AsmLayout.Host
