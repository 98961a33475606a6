import AsmLayout.Host.Process
import AsmLayout.Host.Script

/-! # What a shell knows while it runs a script

A session is a process with variables, functions and settings. Commands act on it, and some of them leave
the commands around them before their end.
-/

namespace AsmLayout.Host

open Text (Octets)

/-- How the commands around a command are left. -/
inductive Jump where
  | breakLoops (levels : Nat)
  | continueLoop (levels : Nat)
  | returning
  /-- A mistake has been told. -/
  | failed
  | leaving
  /-- Another program has run in the place of the shell. -/
  | replaced (ending : Ending)
  | killed (signal : Nat)
  deriving Repr, DecidableEq

/-- A variable. It may be known without having a value. -/
structure Binding where
  value? : Option Octets
  exported : Bool := false
  readOnly : Bool := false
  deriving Repr, DecidableEq

/-- How far options of a script have been read: the number of the next word, and what is left of the
    current one. -/
structure OptionPosition where
  word : Nat := 1
  letters : Octets := []
  deriving Repr, DecidableEq

structure Session where
  process : Process
  /-- The name by which the shell tells its mistakes. -/
  name : Octets
  /-- The process that scripts take for their own. -/
  mainProcess : Nat
  parameters : List Octets := []
  bindings : List (Octets × Binding) := []
  functions : List (Octets × Command) := []
  /-- The texts that words stand for. -/
  aliases : List (Octets × Octets) := []
  /-- Where programs were found. -/
  remembered : List (Octets × Octets) := []
  /-- The letters of the settings that are on. -/
  settings : List Char := []
  /-- What is done at the end, which is number zero, and on signals. -/
  traps : List (Nat × Octets) := []
  status : Nat := 0
  /-- The status of the last command whose output was put in. -/
  substituted : Nat := 0
  /-- The status with which the end was asked for. -/
  asked? : Option Nat := none
  line : Nat := 1
  /-- The command that complaints come from. -/
  running? : Option Octets := none
  loops : Nat := 0
  /-- The variables that each running function has hidden. -/
  hidden : List (List (Octets × Option Binding)) := []
  documents : List (Nat × List Piece) := []
  numbered : Nat := 0
  /-- The last process that was not waited for. -/
  background? : Option Nat := none
  finished : List (Nat × Ending) := []
  /-- What the running command has printed so far. -/
  output : Octets := []
  position : OptionPosition := {}

abbrev Shell := ExceptT Jump (StateM Session)

/-- A program to run: the path where it is, and the words that it is called with. -/
abbrev Launcher := (path : Octets) → (words : List Octets) → Act (Except IoError Ending)

structure Evaluator where
  launch : Launcher
  /-- Run a command. If its end is looked at by another command, it may fail. -/
  run : (tested : Bool) → Command → Shell Unit

def onProcess {α : Type} (act : Act α) : Shell α :=
  modifyGet fun s =>
    let (a, process) := act s.process
    (a, { s with process })

/-- What an act comes to, also if it does not end. -/
def attempt {α : Type} (act : Shell α) : Shell (Except Jump α) :=
  ExceptT.lift act.run

/-- Act, and finish in any case. -/
def withFinish {α : Type} (finish : Shell Unit) (act : Shell α) : Shell α := do
  let result ← attempt act
  finish
  match result with
  | .ok a => return a
  | .error jump => throw jump

def ascii (text : String) : Octets :=
  text.toList

def Session.origin (s : Session) : Octets :=
  let source := s.name ++ ascii ": " ++ Text.decimal s.line ++ ascii ": "
  match s.running? with
  | some name => source ++ name ++ ascii ": "
  | none => source

def warn (message : Octets) : Shell Unit := do
  let origin := (← get).origin
  onProcess (complain (origin ++ message))

def setStatus (status : Nat) : Shell Unit :=
  modify fun s => { s with status }

/-- Tell a mistake and give up. -/
def giveUp {α : Type} (message : Octets) : Shell α := do
  warn message
  setStatus 2
  throw .failed

/-- Print something when the running command ends. -/
def say (bytes : Octets) : Shell Unit :=
  modify fun s => { s with output := s.output ++ bytes }

/-- Print a line when the running command ends. -/
def sayLine (bytes : Octets) : Shell Unit :=
  say (bytes ++ ['\n'])

def hasSetting (letter : Char) : Shell Bool :=
  return (← get).settings.contains letter

def Session.value? (s : Session) (name : Octets) : Option Octets :=
  (s.bindings.lookup name).bind (·.value?)

def value? (name : String) : Shell (Option Octets) :=
  return (← get).value? (ascii name)

/-- The text of a variable, none at all if it has no value. -/
def valueOf (name : String) : Shell Octets :=
  return (← value? name).getD []

/-- Put a binding in the place of the one that a variable has, or take it away. -/
def bind (name : Octets) (binding : Option Binding) : Shell Unit :=
  modify fun s =>
    let others := s.bindings.filter fun entry => entry.1 != name
    match binding with
    | some binding =>
      if (s.bindings.lookup name).isSome then
        { s with bindings := s.bindings.map fun entry =>
            if entry.1 == name then (name, binding) else entry }
      else { s with bindings := others ++ [(name, binding)] }
    | none => { s with bindings := others }

/-- The binding of a variable, an empty one if it has none. -/
def bindingOf (name : Octets) : Shell Binding :=
  return ((← get).bindings.lookup name).getD { value? := none }

/-- Set a variable. Where options are read anew and where programs are depends on some of them. -/
def assign (name value : Octets) : Shell Unit := do
  let old ← bindingOf name
  if old.readOnly then giveUp (name ++ ascii ": is read only")
  let exported := old.exported || (← hasSetting 'a')
  bind name (some { old with value? := some value, exported })
  if name == ascii "OPTIND" then
    let word := (String.ofList value).toNat?.getD 1
    modify fun s => { s with position := { word := max word 1 } }
  if name == ascii "PATH" then modify fun s => { s with remembered := [] }

/-- Hide a variable until the running function ends. -/
def hide (name : Octets) : Shell Unit :=
  modify fun s =>
    match s.hidden with
    | [] => s
    | inner :: outer =>
      if (inner.lookup name).isSome then s
      else { s with hidden := ((name, s.bindings.lookup name) :: inner) :: outer }

/-- What other programs get to know of the variables. -/
def Session.environment (s : Session) : List (Octets × Octets) :=
  s.bindings.filterMap fun (name, binding) =>
    if binding.exported then binding.value?.map fun value => (name, value) else none

def takeSignals : Act (List Nat) :=
  modifyGet fun p =>
    let (own, others) := p.world.signals.partition fun signal => signal.1 == p.id
    (own.map (·.2), { p with world := { p.world with signals := others } })

/-- Whether a signal that is not looked after does nothing. -/
def isHarmless (signal : Nat) : Bool :=
  signal == 17 || signal == 18 || signal == 23 || signal == 28 || (19 ≤ signal && signal ≤ 22)

/-- Whether a signal ends the process of a session at once. -/
def Session.diesOf (s : Session) (signal : Nat) : Bool :=
  signal == 9 ||
    !(isHarmless signal || s.process.ignored.contains signal || (s.traps.lookup signal).isSome)

/-- End if one of the signals on their way ends the process at once. -/
def endIfKilled : Shell Unit := do
  let s ← get
  let own := s.process.world.signals.filter fun signal => signal.1 == s.process.id
  match own.find? fun signal => s.diesOf signal.2 with
  | some (_, signal) => throw (.killed signal)
  | none => return ()

/-- Act as a new process that starts as a copy of this one; gives what it came to and how it ended. -/
def fork {α : Type} (act : Shell α) : Shell (Except Jump α × Session) := fun s =>
  let number := s.process.world.youngest + 1
  let world := { s.process.world with youngest := number }
  let process := { s.process with
    world, id := number, parent := s.process.id, waiting := s.process.id :: s.process.waiting }
  let (result, copy) := act.run
    { s with process, traps := s.traps.filter fun trap => trap.2.isEmpty, asked? := none
             output := [] }
  (.ok (result, copy), { s with process := { s.process with world := copy.process.world } })

/-- Act as a new process and wait for its end. A signal may come before. -/
def inCopy {α : Type} (act : Shell α) : Shell (Except Jump α × Session) := do
  let result ← fork act
  endIfKilled
  return result

/-- The names of the signals by their numbers, from number one on. -/
def signalNames : List String :=
  ["HUP", "INT", "QUIT", "ILL", "TRAP", "ABRT", "BUS", "FPE", "KILL", "USR1", "SEGV", "USR2", "PIPE",
   "ALRM", "TERM", "STKFLT", "CHLD", "CONT", "STOP", "TSTP", "TTIN", "TTOU", "URG", "XCPU", "XFSZ",
   "VTALRM", "PROF", "WINCH", "IO", "PWR", "SYS"]

/-- What is told of a process that a signal has killed. -/
def signalTexts : List String :=
  ["Hangup", "Interrupt", "Quit", "Illegal instruction", "Trace/breakpoint trap", "Aborted",
   "Bus error", "Floating point exception", "Killed", "User defined signal 1", "Segmentation fault",
   "User defined signal 2", "Broken pipe", "Alarm clock", "Terminated", "Stack fault",
   "Child exited", "Continued", "Stopped (signal)", "Stopped", "Stopped (tty input)",
   "Stopped (tty output)", "Urgent I/O condition", "CPU time limit exceeded",
   "File size limit exceeded", "Virtual timer expired", "Profiling timer expired",
   "Window changed", "I/O possible", "Power failure", "Bad system call"]

def signalNumber? (name : String) : Option Nat :=
  (signalNames.idxOf? name).map (· + 1)

/-- Tell that a process was killed, unless its signal is an everyday one. -/
def tellEnding (ending : Ending) : Shell Unit :=
  match ending with
  | .exited _ => return ()
  | .killed signal =>
    if signal = 2 || signal = 13 then return ()
    else onProcess (complain (ascii (signalTexts.getD (signal - 1) "Unknown signal")))

def takeEnding (ending : Ending) : Shell Unit := do
  tellEnding ending
  setStatus ending.status

end AsmLayout.Host
