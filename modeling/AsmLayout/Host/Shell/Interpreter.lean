import AsmLayout.Host.Shell.Builtin
import AsmLayout.Host.Shell.Redirection

/-! # Running commands

Each kind of command is run with an evaluator for the commands inside it. The evaluators stand on each
other, so that commands can be as deep inside each other as there are evaluators.
-/

namespace AsmLayout.Host

open Text (Octets)

/-- The words behind those that only say that no function is meant, if the words start with such. -/
def withoutPrecommand : List Octets → Option (List Octets)
  | [] => none
  | word :: words =>
    let rec options : List Octets → Option (List Octets)
      | [] => none
      | word :: words =>
        if word == ['-', '-'] then if words.isEmpty then none else some words
        else match word with
          | '-' :: c :: letters =>
            if (c :: letters).all (· == 'p') then options words else none
          | _ => some (word :: words)
    if word == ascii "command" then options words else none

/-- A command line without such words, and whether it had them. -/
def strip : (fuel : Nat) → List Octets → List Octets × Bool
  | 0, words => (words, false)
  | fuel + 1, words =>
    match withoutPrecommand words with
    | some words => ((strip fuel words).1, true)
    | none => (words, false)

/-- Whether the words of a command so far say that it sets variables. -/
def setsVariables (words : List Octets) : Bool :=
  match (strip (words.length + 1) words).1 with
  | name :: _ => ["export", "readonly", "local"].contains (String.ofList name)
  | [] => false

/-- The fields of the words of a command. Words that set variables are not split in commands for that. -/
def argumentsOf (e : Evaluator) : (soFar : List Octets) → List (List Piece) → Shell (List Octets)
  | soFar, [] => return soFar
  | soFar, word :: words => do
    if setsVariables soFar && (assignment? word).isSome then
      argumentsOf e (soFar ++ [← textOfValue e word]) words
    else argumentsOf e (soFar ++ (← fieldsOf e word)) words

inductive Callee where
  /-- It has no words. -/
  | nothing
  | special (name : Octets) (act : Builtin)
  | regular (name : Octets) (act : Builtin)
  | function (body : Command)
  | program (name : Octets)

/-- What a command line calls by a name. -/
def calleeOf (name : Octets) (isPlain : Bool) : Shell Callee := do
  let text := String.ofList name
  let functions := (← get).functions
  match if isPlain then functions.lookup name else none with
  | some body => return .function body
  | none =>
    match builtin? text with
    | some act =>
      return if isPlain && specialNames.contains text then .special name act else .regular name act
    | none => return .program name

/-- Run a program, or tell why that cannot be done. -/
def runProgram (e : Evaluator) (words : List Octets) :
    Shell (Except (Octets × Nat) Ending) := do
  let name := words.headD []
  match ← locateProgram name with
  | .error cause => return .error (name ++ ascii ": " ++ runningText cause, 127)
  | .ok path =>
    let s ← get
    let ignored := s.process.ignored ++ (s.traps.filter fun trap => trap.2.isEmpty).map (·.1)
    let launched ← onProcess do
      modify fun p => { p with environment := s.environment, ignored }
      match ← e.launch path words with
      | .error .invalidFormat => e.launch (ascii "/bin/sh") (ascii "/bin/sh" :: path :: words.drop 1)
      | result => return result
    match launched with
    | .ok ending => return .ok ending
    | .error cause =>
      return .error (name ++ ascii ": " ++ runningText cause, failedStatus cause)

/-- Run a program in a new process and take its status. -/
def callProgram (e : Evaluator) (words : List Octets) : Shell Unit := do
  discard (locateProgram (words.headD []))
  let (result, _) ← inCopy (runProgram e words)
  match result with
  | .ok (.ok ending) => takeEnding ending
  | .ok (.error (message, status)) =>
    warn message
    setStatus status
  | .error jump => throw jump

/-- Run a program in the place of the shell. -/
def replaceShell (e : Evaluator) (words : List Octets) : Shell Nat := do
  let (_, words) ← optionsOf "" words
  if words.isEmpty then return 0
  match ← runProgram e words with
  | .ok ending => throw (.replaced ending)
  | .error (message, status) =>
    warn message
    setStatus status
    throw .leaving

/-- Act with variables that may be hidden until the act ends. -/
def withFrame {α : Type} (act : Shell α) : Shell α := do
  modify fun s => { s with hidden := [] :: s.hidden }
  withFinish (do
    for (name, binding) in (← get).hidden.headD [] do bind name binding
    modify fun s => { s with hidden := s.hidden.drop 1 }) act

/-- Run the body of a function. -/
def callFunction (e : Evaluator) (tested : Bool) (body : Command) (words : List Octets) :
    Shell Unit := do
  let outer ← get
  set { outer with parameters := words, position := {}, loops := 0 }
  let result ← attempt (withFrame (e.run tested body))
  modify fun s =>
    { s with parameters := outer.parameters, position := outer.position, loops := outer.loops }
  match result with
  | .ok () | .error .returning => return ()
  | .error jump => throw jump

def call (e : Evaluator) (tested : Bool) (callee : Callee) (words : List Octets) : Shell Unit := do
  match callee with
  | .nothing => setStatus (← get).substituted
  | .special name act =>
    let act := if name == ascii "exec" then replaceShell e words else act e words
    if ← runBuiltin name act then throw .failed
  | .regular name act =>
    let act := if name == ascii "exec" then replaceShell e words else act e words
    discard (runBuiltin name (if name == ascii "local" then withFrame act else act))
  | .function body => callFunction e tested body words
  | .program name => callProgram e (name :: words)

/-- Set variables for good, or as the environment of one command; gives what they were before. -/
def setVariables (e : Evaluator) (lasting exporting : Bool) :
    List (Octets × List Piece) → Shell (List (Octets × Octets))
  | [] => return []
  | (name, value) :: others => do
    let text ← textOfValue e value
    assign name text
    if exporting || !lasting then bind name (some { ← bindingOf name with exported := true })
    return (name, text) :: (← setVariables e lasting exporting others)

/-- Show a command before it runs. -/
def trace (assigned : List (Octets × Octets)) (words : List Octets) (streams : List (Nat × Option Nat)) :
    Shell Unit := do
  if ← hasSetting 'x' then
    let parts := (assigned.map fun (name, text) => name ++ '=' :: text) ++ words
    let line := (← value? "PS4").getD [] ++ Text.joinWith ' ' parts ++ ['\n']
    let target ← match streams.lookup 2 with
      | some stream => pure stream
      | none => onProcess (streamOf? 2)
    match target with
    | some stream => discard (onProcess (writeStream stream (Text.arrayOf line)))
    | none => return ()

/-- Run a command line. -/
def runSimple (e : Evaluator) (tested : Bool) (line : Nat) (assignments : List (Octets × List Piece))
    (words : List (List Piece)) (redirections : List Redirection) : Shell Unit := do
  modify fun s => { s with line, substituted := 0 }
  let fields ← argumentsOf e [] words
  let (plain, stripped) := strip (fields.length + 1) fields
  let callee ← match plain with
    | [] => pure .nothing
    | name :: _ => calleeOf name !stripped
  let (isSpecial, isExec) : Bool × Bool := match callee, plain with
    | .special name _, words => (true, name == ascii "exec" && words.length == 1)
    | .regular name _, words => (false, name == ascii "exec" && words.length == 1)
    | _, _ => (false, false)
  let lasting : Bool := match callee with
    | .nothing | .special _ _ => true
    | _ => false
  let exporting := isSpecial && plain.head? = some (ascii "exec")
  let directions ← redirections.mapM (directionOf e)
  let streams ← streamsOf (directions.map (·.descriptor))
  match ← attempt (directions.forM direct) with
  | .error .failed =>
    putBack streams
    if isSpecial then throw .failed
  | .error jump => throw jump
  | .ok () =>
    withFinish (if isExec then return () else putBack streams) do
      let before := (← get).bindings
      let restore : Shell Unit :=
        if lasting then return ()
        else assignments.forM fun (name, _) => bind name (before.lookup name)
      withFinish restore do
        let assigned ← setVariables e lasting exporting assignments
        trace assigned fields streams
        call e tested callee (plain.drop 1)

/-- What comes of one turn of a loop. -/
inductive Turn where
  | done
  | again
  | stopped
  deriving Repr, DecidableEq

/-- A part of a turn of a loop. -/
def takeTurn (act : Shell Unit) : Shell Turn := do
  match ← attempt act with
  | .ok () => return .done
  | .error (.breakLoops n) => if n ≤ 1 then return .stopped else throw (.breakLoops (n - 1))
  | .error (.continueLoop n) => if n ≤ 1 then return .again else throw (.continueLoop (n - 1))
  | .error jump => throw jump

def insideLoop (act : Shell Unit) : Shell Unit := do
  modify fun s => { s with loops := s.loops + 1 }
  withFinish (modify fun s => { s with loops := s.loops - 1 }) act

/-- Run a body as long as a test says; `status` is that of the last turn. -/
def runLoop (e : Evaluator) (tested untilSuccess : Bool) (test body : Command) :
    (fuel : Nat) → (status : Nat) → Shell Unit
  | 0, status => setStatus status
  | fuel + 1, status => do
    match ← takeTurn (e.run true test) with
    | .stopped => setStatus status
    | .again => runLoop e tested untilSuccess test body fuel status
    | .done =>
      if ((← get).status = 0) = untilSuccess then setStatus status
      else
        match ← takeTurn (e.run tested body) with
        | .stopped => return ()
        | .done | .again => runLoop e tested untilSuccess test body fuel (← get).status

/-- Run a body for each of some texts. -/
def runEach (e : Evaluator) (tested : Bool) (name : Octets) (body : Command) :
    List Octets → Shell Unit
  | [] => return ()
  | text :: texts => do
    assign name text
    match ← takeTurn (e.run tested body) with
    | .stopped => return ()
    | .done | .again => runEach e tested name body texts

/-- Whether one of some patterns fits a text. -/
def fitsOne (e : Evaluator) (text : Octets) : List (List Piece) → Shell Bool
  | [] => return false
  | pattern :: others => do
    if fitsWhole (← patternOfWord e pattern) text then return true
    fitsOne e text others

/-- Run the first clause that fits a text. -/
def runChoice (e : Evaluator) (tested : Bool) (text : Octets) :
    List (List (List Piece) × Command) → Shell Unit
  | [] => setStatus 0
  | (patterns, body) :: clauses => do
    if ← fitsOne e text patterns then
      match body with
      | .nothing => setStatus 0
      | body => e.run tested body
    else runChoice e tested text clauses

/-- Look ahead for the program of a part of a pipeline, so that the shell remembers it. -/
def lookAhead : Command → Shell Unit
  | .simple _ _ ([.text name false] :: _) _ => do
    if !isName name then return
    match ← calleeOf name true with
    | .program name => discard (locateProgram name)
    | _ => return
  | _ => return

/-- Run commands each of which reads what the one before has written, `input` being what the first one
    reads; gives how they ended. -/
def runPipeline (e : Evaluator) (tested : Bool) :
    (input : Option Nat) → List Command → Shell (List Ending)
  | _, [] => return []
  | input, command :: others => do
    lookAhead command
    let output : Option Nat ← if others.isEmpty then pure none
      else some <$> onProcess (addStream (.pipe ByteArray.empty 0))
    let ending ← inSubshell e do
      onProcess (input.forM (connect 0))
      onProcess (output.forM (connect 1))
      e.run tested command
    return ending :: (← runPipeline e tested output others)

/-- Run a command in a process that is not waited for, with nothing to read. -/
def runAside (e : Evaluator) (body : Command) : Shell Unit := do
  let number := (← get).process.world.youngest + 1
  let ending ← inSubshell e do
    let stream ← onProcess (addStream (.device .null))
    onProcess (connect 0 stream)
    e.run false body
  modify fun s =>
    { s with background? := some number, finished := (number, ending) :: s.finished, status := 0 }

/-- Whether a failing command of this kind can end a script that is to end on failures. -/
def canEnd : Command → Bool
  | .simple _ _ _ _ | .pipeline _ | .subshell _ _ _ | .background _ => true
  | _ => false

/-- How many turns a loop takes at most. -/
def longestLoop : Nat := 10000000

/-- Run a command, with an evaluator for the commands inside it. -/
def evaluate (e : Evaluator) (tested : Bool) (command : Command) : Shell Unit := do
  deliverAll e
  if ← hasSetting 'n' then return
  match command with
  | .nothing => return ()
  | .simple line assignments words redirections =>
    runSimple e tested line assignments words redirections
  | .sequence first second =>
    e.run tested first
    e.run tested second
  | .andThen first second =>
    e.run true first
    if (← get).status = 0 then e.run tested second
  | .orElse first second =>
    e.run true first
    if (← get).status != 0 then e.run tested second
  | .negation body =>
    e.run true body
    setStatus (if (← get).status = 0 then 1 else 0)
  | .pipeline parts =>
    let endings ← runPipeline e tested none parts
    endings.forM tellEnding
    setStatus ((endings.getLast?.map Ending.status).getD 0)
  | .background body => runAside e body
  | .subshell line body redirections =>
    modify fun s => { s with line }
    let directions ← redirections.mapM (directionOf e)
    takeEnding (← inSubshell e do
      directions.forM direct
      e.run tested body)
  | .redirected line body redirections =>
    modify fun s => { s with line }
    let directions ← redirections.mapM (directionOf e)
    withDirections directions (setStatus 2) (e.run tested body)
  | .conditional test body otherwise =>
    e.run true test
    if (← get).status = 0 then e.run tested body
    else match otherwise with
      | .nothing => setStatus 0
      | otherwise => e.run tested otherwise
  | .loop untilSuccess test body =>
    insideLoop (runLoop e tested untilSuccess test body longestLoop 0)
  | .each line name words body =>
    modify fun s => { s with line }
    let fields ← words.mapM (fieldsOf e)
    if fields.flatten.isEmpty then setStatus 0
    insideLoop (runEach e tested name body fields.flatten)
  | .choice line subject clauses =>
    modify fun s => { s with line }
    runChoice e tested (← textOfWord e subject) clauses
  | .definition _ name body =>
    modify fun s =>
      { s with functions := (name, body) :: s.functions.filter fun entry => entry.1 != name
               status := 0 }
  deliverAll e
  if canEnd command && !tested && (← get).status != 0 && (← hasSetting 'e') then throw .leaving

/-- An evaluator for commands that are at most so deep inside each other. -/
def evaluatorAt (launch : Launcher) : (depth : Nat) → Evaluator
  | 0 => { launch, run := fun _ _ => giveUp (ascii "nested too deeply") }
  | depth + 1 =>
    { launch, run := fun tested command s => evaluate (evaluatorAt launch depth) tested command s }

end AsmLayout.Host
