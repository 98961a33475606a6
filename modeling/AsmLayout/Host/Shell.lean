import AsmLayout.Host.Shell.Interpreter

/-! # The shell

It runs a script that is given as one of its words, stands in a file, or is what it reads.
-/

namespace AsmLayout.Host

open Text (Octets)

/-- How deep commands can be inside each other. -/
def deepestCommand : Nat := 4000

/-- What variables are when a shell starts, if the environment does not say. -/
def initialBindings : List (Octets × Octets) :=
  [("IFS", " \t\n"), ("OPTIND", "1"), ("PS1", "# "), ("PS2", "> "), ("PS4", "+ ")].map
    fun (name, value) => (ascii name, ascii value)

def Session.start (process : Process) (name : Octets) : Session :=
  let imported := process.environment.filter fun entry =>
    isName entry.1 && entry.1 != ascii "IFS"
  let bindings := imported.map fun (name, value) =>
    (name, { value? := some value, exported := true : Binding })
  let others := (initialBindings ++ [(ascii "PATH", usualPath),
      (ascii "PPID", Text.decimal process.parent), (ascii "PWD", (physicalPath process).1)]).filter
    fun entry => (imported.lookup entry.1).isNone
  { process, name, mainProcess := process.id, line := 0
    bindings := bindings ++ others.map fun (name, value) =>
      (name, { value? := some value, exported := name == ascii "PWD" : Binding }) }

def firstLine : Nat := 1

def takeParameters (words : List Octets) : Shell Unit :=
  modify fun s =>
    { s with name := words.headD s.name, parameters := words.drop 1, line := firstLine }

def runScript (e : Evaluator) (words : List Octets) : Shell Unit := do
  let found ← makeSettings true (words.length + 1) words
  match found.left with
  | [] =>
    if found.script then giveUp (ascii "-c requires an argument")
    match ← onProcess (readAll 0) with
    | .ok text =>
      takeParameters []
      discard (runText e text true)
    | .error _ => return ()
  | first :: others =>
    if found.script then
      takeParameters others
      discard (runText e first)
    else if ← hasSetting 's' then
      takeParameters ((← get).name :: first :: others)
      match ← onProcess (readAll 0) with
      | .ok text => discard (runText e text true)
      | .error _ => return ()
    else
      match ← onProcess (readFile first) with
      | .ok text =>
        takeParameters (first :: others)
        discard (runText e text true)
      | .error .isADirectory => return ()
      | .error cause =>
        giveUp (ascii "cannot open " ++ first ++ ascii ": " ++ openingText false cause)

def shell (launch : Launcher) : Program := fun name words process =>
  let e := evaluatorAt launch deepestCommand
  let (ending, session) := (do conclude e (← attempt (runScript e words)) : Shell Ending).run
    (Session.start process name)
  match ending with
  | .ok ending => (ending, session.process)
  | .error _ => (.exited 2, session.process)

end AsmLayout.Host
