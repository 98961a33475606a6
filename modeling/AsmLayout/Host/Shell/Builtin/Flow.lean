import AsmLayout.Host.Shell.Builtin.Options
import AsmLayout.Host.Shell.Running

/-! # Commands on the course of a script -/

namespace AsmLayout.Host

open Text (Octets)

def leave (words : List Octets) : Shell Nat := do
  match words with
  | [] => pure ()
  | word :: _ =>
    let status ← naturalOf word
    modify fun s => { s with asked? := some status }
  throw .leaving

def leaveFunction (words : List Octets) : Shell Nat := do
  match words with
  | [] => pure ()
  | word :: _ => setStatus (← naturalOf word)
  throw .returning

/-- Leave loops, or go on with the next turn of one. -/
def leaveLoops (jump : Nat → Jump) (words : List Octets) : Shell Nat := do
  let levels ← match words with
    | [] => pure 1
    | word :: _ => do
      let levels ← naturalOf word
      if levels = 0 then giveUp (ascii "Illegal number: " ++ word)
      pure levels
  let loops := (← get).loops
  if loops = 0 then return 0
  setStatus 0
  throw (jump (min levels loops))

def runWords (e : Evaluator) (words : List Octets) : Shell Nat :=
  runText e (Text.joinWith ' ' words)

/-- The path of a file with a script: one without a slash is looked for where programs are. -/
def locateScript (name : Octets) : Shell Octets := do
  if name.contains '/' then return name
  for directory in Text.splitAtChar ':' ((← value? "PATH").getD []) do
    let path := if directory.isEmpty then name else directory ++ '/' :: name
    match ← onProcess (nodeAt path) with
    | .ok id =>
      match (← onProcess files).node id with
      | .file _ _ => return path
      | _ => pure ()
    | .error _ => pure ()
  giveUp (name ++ ascii ": not found")

def runFile (e : Evaluator) (words : List Octets) : Shell Nat := do
  match words with
  | [] => giveUp (ascii "arg count")
  | name :: _ =>
    let path ← locateScript name
    match ← onProcess (readFile path) with
    | .error .isADirectory => return 0
    | .error cause =>
      let reason := match cause with
        | .notFound | .notADirectory => "No such file"
        | cause => cause.wording
      giveUp (ascii "cannot open " ++ path ++ ascii (": " ++ reason))
    | .ok text =>
      modify fun s => { s with running? := some path }
      match ← attempt (runText e text true) with
      | .ok status => return status
      | .error .returning => return (← get).status
      | .error jump => throw jump

/-- Lay down what is done on signals and at the end. -/
def setTraps (words : List Octets) : Shell Nat := do
  let (_, words) ← optionsOf "" words
  match words with
  | [] =>
    for (signal, action) in (← get).traps.mergeSort fun a b => a.1 ≤ b.1 do
      sayLine (ascii "trap -- " ++ quoteText action ++ ascii (" " ++ signalName signal))
    return 0
  | first :: others =>
    let (action, signals) : Option Octets × List Octets :=
      if others.isEmpty || (signalOf? 0 first).isSome then (none, words)
      else (if first == ['-'] then none else some first, others)
    for word in signals do
      match signalOf? 0 word with
      | none =>
        onProcess (complain (ascii "trap: " ++ word ++ ascii ": bad trap"))
        return 1
      | some signal =>
        modify fun s =>
          let traps := s.traps.filter fun trap => trap.1 != signal
          { s with traps := match action with
              | some action => traps ++ [(signal, action)]
              | none => traps }
    return 0

/-- Tell how signals are sent. -/
def explainSignals {α : Type} : Shell α :=
  giveUp (ascii ("Usage: kill [-s sigspec | -signum | -sigspec] [pid | job]... or\n" ++
    "kill -l [exitstatus]"))

/-- Send a signal to a process; gives whether there is such a process. A process that has not been waited
    for takes it as its end. -/
def signalProcess (target signal : Nat) : Shell Bool := do
  match (← get).finished.lookup target with
  | some _ =>
    if signal != 0 && !isHarmless signal then
      modify fun s =>
        { s with finished := s.finished.map fun entry =>
            if entry.1 = target then (target, .killed signal) else entry }
    return true
  | none => onProcess (sendSignal target signal)

def sendSignals (signal : Nat) (targets : List Octets) : Shell Nat := do
  let mut status := 0
  for word in targets do
    if word.head? = some '%' then giveUp (ascii "No such job: " ++ word)
    let target ← naturalOf word
    if !(← signalProcess target signal) then
      warn (ascii "No such process\n")
      status := 1
  return status

/-- Show the name of a signal, or all names. -/
def listSignals (words : List Octets) : Shell Nat := do
  match words with
  | [] =>
    sayLine ['0']
    for name in signalNames do sayLine (ascii name)
  | word :: _ =>
    let n ← naturalOf word
    let signal := if 128 < n then n - 128 else n
    if signal = 0 || 64 < signal then
      giveUp (ascii "invalid signal number or exit status: " ++ word)
    sayLine (ascii (signalName signal))
  return 0

/-- Send signals, or show their names. -/
def kill (words : List Octets) : Shell Nat := do
  let direct : Option (Nat × List Octets) := match words with
    | ('-' :: name) :: targets => (signalOf? 1 name).map fun signal => (signal, targets)
    | _ => none
  match direct, words with
  | _, [] => explainSignals
  | some (_, []), _ => explainSignals
  | some (signal, targets), _ => sendSignals signal targets
  | none, ('-' :: _) :: _ =>
    let (options, left) ← optionsOf "ls:" words
    if options.any fun option => option.1 = 'l' then listSignals left
    else
      let mut signal := 15
      for (_, name) in options do
        match signalOf? 1 name with
        | some n => signal := n
        | none => giveUp (ascii "invalid signal number or name: " ++ name)
      if left.isEmpty then explainSignals
      sendSignals signal left
  | none, targets => sendSignals 15 targets

def waitFor (words : List Octets) : Shell Nat := do
  let (_, words) ← optionsOf "" words
  if words.isEmpty then
    modify fun s => { s with finished := [] }
    return 0
  let mut status := 127
  for word in words do
    if word.head? = some '%' then giveUp (ascii "No such job: " ++ word)
    let number ← naturalOf word
    match (← get).finished.lookup number with
    | some ending =>
      tellEnding ending
      status := ending.status
    | none => status := 127
  return status

/-- The path from the root to a directory. -/
def pathTo (found : FileSystem) : (fuel : Nat) → (id : Nat) → Octets
  | 0, _ => []
  | _ + 1, 0 => []
  | fuel + 1, id =>
    let above := found.parent id
    let name := (found.entries above).find? fun entry => entry.2 == id
    match name with
    | some (name, _) => pathTo found fuel above ++ '/' :: Text.octets name
    | none => []

/-- The path of the directory where paths start, without links. -/
def physicalPath : Act Octets := do
  let p ← get
  let path := pathTo p.world.files p.world.files.nodes.size p.working
  return if path.isEmpty then ['/'] else path

/-- A path without dots and without the names that they take back. -/
def plainPath (path : Octets) : Octets :=
  let names := (Text.splitAtChar '/' path).foldl (fun (names : List Octets) name =>
    if name.isEmpty || name == ['.'] then names
    else if name == ['.', '.'] then names.drop 1
    else name :: names) []
  '/' :: Text.joinWith '/' names.reverse

/-- Go to a directory by a path. -/
def goTo (path : Octets) (physical : Bool) : Shell Bool := do
  let old := (← value? "PWD").getD (← onProcess physicalPath)
  let full := if path.head? = some '/' then path else old ++ '/' :: path
  let wanted := if physical then path else plainPath full
  match ← onProcess (nodeAt wanted) with
  | .error _ => return false
  | .ok id =>
    let found ← onProcess files
    if !found.isDirectory id || !(found.mode id).canRun then return false
    onProcess (modify fun p => { p with working := id })
    let shown ← if physical then onProcess physicalPath else pure wanted
    bind (ascii "OLDPWD") (some { value? := some old, exported := true })
    bind (ascii "PWD") (some { value? := some shown, exported := true })
    return true

def changeDirectory (words : List Octets) : Shell Nat := do
  let (options, words) ← optionsOf "LP" words
  let physical := options.getLast?.map (·.1) = some 'P'
  let (target, shown) ← match words with
    | [] => pure ((← valueOf "HOME"), false)
    | ['-'] :: _ => pure ((← valueOf "OLDPWD"), true)
    | word :: _ => pure (word, false)
  if target.isEmpty then return 0
  let first := target.takeWhile (· != '/')
  let direct := first.isEmpty || first == ['.'] || first == ['.', '.'] || words == [['-']]
  let listed ← valueOf "CDPATH"
  let searched := if direct then [[]] else Text.splitAtChar ':' listed
  for directory in searched do
    let path := if directory.isEmpty then target else directory ++ '/' :: target
    if ← goTo path physical then
      if shown || !directory.isEmpty then sayLine (← valueOf "PWD")
      return 0
  if !direct && !searched.contains [] then
    if ← goTo target physical then return 0
  giveUp (ascii "can't cd to " ++ target)

def showDirectory (words : List Octets) : Shell Nat := do
  let (options, _) ← optionsOf "LP" words
  if options.getLast?.map (·.1) = some 'P' then sayLine (← onProcess physicalPath)
  else sayLine ((← value? "PWD").getD (← onProcess physicalPath))
  return 0

/-- The digits of a number in base eight, at least so many. -/
def octalDigits (width n : Nat) : Octets :=
  let digits := Nat.toDigits 8 n
  List.replicate (width - digits.length) '0' ++ digits

def permissionLetters (bits : Nat) : Octets :=
  (if bits / 4 % 2 = 1 then ['r'] else []) ++ (if bits / 2 % 2 = 1 then ['w'] else []) ++
    (if bits % 2 = 1 then ['x'] else [])

/-- The permissions that words with letters leave of some, `before` being those that the letters of classes
    stand for. -/
def allowed? (fuel : Nat) (before bits : Nat) (word : Octets) : Option Nat :=
  match fuel with
  | 0 => none
  | fuel + 1 =>
    let classes := word.takeWhile fun c => "augo".toList.contains c
    let factorOf (c : Char) : Nat := match c with
      | 'a' => 0o111
      | 'u' => 0o100
      | 'g' => 0o010
      | _ => 0o001
    let positions := if classes.isEmpty then 0o111
      else classes.foldl (fun bits c => bits ||| factorOf c) 0
    steps fuel positions bits (word.drop classes.length)
where
  /-- The permissions after some changes for the same classes. -/
  steps : (fuel positions bits : Nat) → Octets → Option Nat
    | fuel + 1, positions, bits, sign :: rest =>
      if !"=+-".toList.contains sign then none
      else
        let letters := rest.takeWhile fun c => "rwxugoXs".toList.contains c
        let valueOf (c : Char) : Nat := match c with
          | 'r' => 4
          | 'w' => 2
          | 'x' => 1
          | 'u' => before / 64
          | 'g' => before / 8
          | 'o' => before
          | 'X' => if before &&& 0o111 = 0 then 0 else 1
          | _ => 0
        let value := (letters.foldl (fun bits c => bits ||| valueOf c) 0 % 8) * positions
        let without (gone : Nat) : Nat := bits &&& (511 ^^^ gone)
        let bits := match sign with
          | '-' => without value
          | '=' => value ||| without (positions * 7)
          | _ => bits ||| value
        match rest.drop letters.length with
        | [] => some bits
        | ',' :: rest => if rest.isEmpty then some bits else allowed? fuel before bits rest
        | rest => steps fuel positions bits rest
    | _, _, _, _ => none

/-- Show or set the permissions that new files do not get. -/
def changeMask (words : List Octets) : Shell Nat := do
  let (options, words) ← optionsOf "S" words
  let mask := (← get).process.mask
  match words with
  | [] =>
    if options.isEmpty then sayLine (octalDigits 4 mask)
    else
      let part (n : Nat) := permissionLetters (7 - mask / n % 8)
      sayLine (ascii "u=" ++ part 64 ++ ascii ",g=" ++ part 8 ++ ascii ",o=" ++ part 1)
  | word :: _ =>
    match word with
    | [] => giveUp (ascii "Illegal mode: ")
    | c :: _ =>
      if c.isDigit then
        let (n, behind) := Arithmetic.digits 8 word
        if !behind.isEmpty then giveUp (ascii "Illegal number: " ++ word)
        onProcess (modify fun p => { p with mask := n % 512 })
      else
        match allowed? (word.length + 1) (511 - mask) (511 - mask) word with
        | some bits => onProcess (modify fun p => { p with mask := 511 - bits })
        | none => giveUp (ascii "Illegal mode: " ++ word)
  return 0

end AsmLayout.Host
