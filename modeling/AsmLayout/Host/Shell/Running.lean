import AsmLayout.Host.Script.Grammar
import AsmLayout.Host.Shell.Session

/-! # Running texts

The text of a script is run line by line. At its end, and when a signal has come, the shell does what was
laid down for that.
-/

namespace AsmLayout.Host

open Text (Octets)

/-- Show lines that have been read if that is asked for. -/
def showLines (asked : Bool) (lines : Unit → Octets) : Shell Unit := do
  if asked && (← hasSetting 'v') then onProcess (discard (write 2 (lines ())))

def firstLines : (count : Nat) → Octets → Octets
  | 0, _ | _, [] => []
  | count + 1, c :: rest =>
    c :: (if c = '\n' then firstLines count rest else firstLines (count + 1) rest)

/-- Run the lines that a reader has in front of it; gives the status of the last command. Lines of a file
    may be shown as they are read. -/
def runLines (e : Evaluator) (ofFile : Bool) : (fuel : Nat) → Scan → (status : Nat) → Shell Nat
  | 0, _, status => return status
  | fuel + 1, scan, status => do
    let s ← get
    let start := scan
    match nextLine.run
        { scan with numbered := s.numbered, documents := [], aliases := s.aliases } with
    | .error fault =>
      showLines ofFile fun _ => firstLines (fault.line + 1 - start.line) start.rest
      modify fun s => { s with line := fault.line }
      giveUp (ascii fault.message)
    | .ok (none, _) =>
      showLines ofFile fun _ => start.rest
      return status
    | .ok (some command, scan) =>
      showLines ofFile fun _ => start.rest.take (start.rest.length - scan.rest.length)
      modify fun s =>
        { s with documents := scan.documents ++ s.documents, numbered := scan.numbered }
      match command, ← hasSetting 'n' with
      | .nothing, _ | _, true => runLines e ofFile fuel scan status
      | command, false =>
        e.run false command
        runLines e ofFile fuel scan (← get).status

/-- Run a text; gives the status of its last command. -/
def runText (e : Evaluator) (text : Octets) (ofFile : Bool := false) : Shell Nat :=
  runLines e ofFile (text.length + 2) (.ofText text) 0

def deliver (e : Evaluator) (signal : Nat) : Shell Unit := do
  let s ← get
  match s.traps.lookup signal with
  | some action =>
    if !action.isEmpty then
      discard (runText e action)
      setStatus s.status
  | none => if s.diesOf signal then throw (.killed signal)

/-- Do what is to be done on the signals that have come. -/
def deliverAll (e : Evaluator) : Shell Unit := do
  for signal in ← onProcess takeSignals do
    deliver e signal

/-- Come to the end of a script. -/
def conclude (e : Evaluator) (result : Except Jump Unit) : Shell Ending := do
  match result with
  | .error (.replaced ending) => return ending
  | .error (.killed signal) => return .killed signal
  | _ =>
    let s ← get
    let status := s.asked?.getD s.status % 256
    match s.traps.lookup 0 with
    | none | some [] => return .exited status
    | some action =>
      set { s with traps := s.traps.filter fun trap => trap.1 != 0, asked? := none, status }
      match ← attempt (runText e action) with
      | .error (.replaced ending) => return ending
      | .error (.killed signal) => return .killed signal
      | _ => return .exited ((← get).asked?.getD status % 256)

/-- Act in a new process; gives how it ended. -/
def inSubshell (e : Evaluator) (act : Shell Unit) : Shell Ending := do
  let (result, _) ← inCopy do conclude e (← attempt (do act; deliverAll e))
  match result with
  | .ok ending => return ending
  | .error _ => return .exited 2

end AsmLayout.Host
