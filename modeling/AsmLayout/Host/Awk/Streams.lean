import AsmLayout.Host.Awk.Machine
import AsmLayout.Host.Awk.Token

/-! # What a program reads and writes

Output waits till a block of it is full, its stream is closed or a command is run. A command that is written
to runs when its stream is closed, and one that is read from when it is asked for the first line.
-/

namespace AsmLayout.Host.Awk

open Text (Octets)

/-- How a cause is told behind a complaint. -/
def causeIn (cause : IoError) : Octets :=
  ascii (" (" ++ cause.wording ++ ")")

/-! ## Output -/

/-- How much waits at most. -/
def blockSize : Nat := 4096

/-- Write what waits, or the full blocks of it. Gives what waits then, and why nothing could be written. -/
def passOn (write : Octets → Act (Except IoError Unit)) (everything : Bool) (waiting : Waiting) :
    Run (Waiting × Option IoError) := do
  let size := if everything then waiting.size else waiting.size / blockSize * blockSize
  if size = 0 then return (waiting, none)
  let text := waiting.all
  match ← onProcess (write (text.take size)) with
  | .ok () => return (⟨[text.drop size], waiting.size - size⟩, none)
  | .error cause => return (waiting, some cause)

/-- Write what waits for the standard output, or the full blocks of it. -/
def passOnStandard (everything : Bool) : Run (Option IoError) := do
  let (waiting, cause?) ← passOn (write 1) everything (← get).waiting
  modify fun m => { m with waiting }
  return cause?

/-- Give up if something could not be written. -/
def giveUpOn (cause? : Option IoError) : Run Unit := do
  match cause? with
  | some cause => giveUp (ascii "write failure" ++ causeIn cause)
  | none => return ()

/-- Write to the standard output. -/
def printStandard (text : Octets) : Run Unit := do
  modify fun m => { m with waiting := m.waiting.add text }
  if blockSize < (← get).waiting.size then giveUpOn (← passOnStandard false)

/-- Write what waits for a file, or the full blocks of it. -/
def Output.passOn (output : Output) (everything : Bool) : Run (Output × Option IoError) := do
  if output.outlet = .command then return (output, none)
  let (waiting, cause?) ← Awk.passOn (fun text => writeStream output.stream (Text.arrayOf text)) everything
    output.waiting
  return ({ output with waiting }, cause?)

def shellPath : Octets :=
  ascii "/bin/sh"

/-- Run a command of the shell, which is called by some name and whose open files are arranged first. -/
def runCommand (calledAs : Octets) (arrange : Act Unit) (command : Octets) : Run Ending := do
  let m ← get
  onProcess (inChild do
    arrange
    match ← m.launch shellPath [calledAs, ascii "-c", command] with
    | .ok ending => return ending
    | .error cause =>
      complainAs m.name (ascii "failed to exec /bin/sh" ++ causeIn cause)
      return .exited 3)

def endingNumber : Ending → Nat
  | .exited code => code
  | .killed signal => 256 + signal

/-- Write all that waits, but for what goes to commands. -/
def passOnAll : Run Unit := do
  for output in (← get).outputs do
    let (output, cause?) ← output.passOn true
    modify fun m =>
      { m with outputs := m.outputs.map fun other =>
          if other.outlet != .command && other.name == output.name then output else other }
    giveUpOn cause?
  giveUpOn (← passOnStandard true)

def openOutput (outlet : Outlet) (name : Octets) : Run Output := do
  match outlet with
  | .command =>
    giveUpOn (← passOnStandard true)
    return { outlet, name, stream := 0 }
  | .file | .append =>
    match ← onProcess (openPath name (if outlet = .file then .writing else .appending)) with
    | .ok stream => return { outlet, name, stream }
    | .error cause => giveUp (ascii "cannot open \"" ++ name ++ ascii "\" for output" ++ causeIn cause)

/-- Whether a name and a kind are those of an output. -/
def Output.isAt (output : Output) (outlet : Outlet) (name : Octets) : Bool :=
  output.name == name && (output.outlet == .command) == (outlet == .command)

/-- Write to an output, which is opened if it is not open yet. -/
def printTo (outlet : Outlet) (name text : Octets) : Run Unit := do
  let isFile := outlet != .command
  if isFile && name == ascii "/dev/stdout" then printStandard text
  else if isFile && name == ascii "/dev/stderr" then
    match ← onProcess (write 2 text) with
    | .ok () => return ()
    | .error cause => giveUpOn (some cause)
  else
    let output ← match (← get).outputs.find? (·.isAt outlet name) with
      | some output => pure output
      | none => openOutput outlet name
    let output := { output with waiting := output.waiting.add text }
    let (output, cause?) ← if blockSize < output.waiting.size then output.passOn false
      else pure (output, none)
    modify fun m =>
      { m with outputs := output :: m.outputs.filter fun other => !other.isAt outlet name }
    giveUpOn cause?

/-- Close an output; gives the number of its end, none if it could not be written. -/
def Output.finish (output : Output) : Run (Option Nat) := do
  match output.outlet with
  | .command =>
    let stream ← onProcess (addStream (.pipe (Text.arrayOf output.waiting.all) 0))
    return some (endingNumber (← runCommand shellPath (connect 0 stream) output.name))
  | .file | .append =>
    match ← output.passOn true with
    | (_, none) => return some 0
    | (_, some cause) =>
      let name := (← get).name
      onProcess (complainAs name
        (ascii "close failed on file \"" ++ output.name ++ ascii "\"" ++ causeIn cause))
      return none

/-! ## Input -/

/-- The front of a text up to an empty line, and what follows the empty lines. -/
def paragraphAt : (found : Octets) → Octets → Octets × Octets
  | found, '\n' :: '\n' :: rest => (found.reverse, rest.dropWhile (· == '\n'))
  | found, ['\n'] | found, [] => (found.reverse, [])
  | found, c :: rest => paragraphAt (c :: found) rest

/-- The front of a text up to a part that a regular expression fits, and what follows that part. It is looked
    for in as many characters as are needed to find it. -/
def cutBefore (regex : Regex) (text : Octets) : (fuel : Nat) → (window : Nat) → Octets × Octets
  | 0, _ => (text, [])
  | fuel + 1, window =>
    let seen := (text.take window).toArray
    let subject : Regex.Subject := { text := seen }
    let whole := seen.size < window
    match nextPart regex subject (seen.size + 1) 0 with
    | none => if whole then (text, []) else cutBefore regex text fuel (4 * window)
    | some (start, stop) =>
      if whole || stop < seen.size then (subject.part 0 start, text.drop stop)
      else cutBefore regex text fuel (4 * window)

/-- The first record of a text and what follows it, if there is a record. -/
def recordAt? (text : Octets) : Run (Option (Octets × Octets)) := do
  if text.isEmpty then return none
  match ← globalText "RS" with
  | [c] =>
    let record := text.takeWhile (· != c)
    return some (record, text.drop (record.length + 1))
  | [] =>
    let text := text.dropWhile (· == '\n')
    return if text.isEmpty then none else some (paragraphAt [] text)
  | separator =>
    return some (cutBefore (← regexOf separator) text 64 128)

/-- What has been read, or a complaint. -/
def readOrGiveUp (found : Except IoError Octets) : Run Octets := do
  match found with
  | .ok text => return text
  | .error cause => giveUp (ascii "read error" ++ causeIn cause)

def isStandardInput (name : Octets) : Bool :=
  name == ['-'] || name == ascii "/dev/stdin"

/-- The text of a file, none if it cannot be opened, with the cause. -/
def textOfFile (name : Octets) : Run (Except IoError Octets) := do
  if isStandardInput name then return .ok (← readOrGiveUp (← onProcess (readAll 0)))
  match ← onProcess (openPath name .reading) with
  | .error cause => return .error cause
  | .ok stream => return .ok (← readOrGiveUp ((← onProcess (takeBytes stream none)).map Text.octetsOfArray))

/-- Open an input, if that can be done. -/
def openInput (isCommand : Bool) (name : Octets) : Run (Option Input) := do
  if isCommand then
    giveUpOn (← passOnStandard true)
    let stream ← onProcess (addStream (.pipe ByteArray.empty 0))
    let ending ← runCommand shellPath (connect 1 stream) name
    let text ← readOrGiveUp ((← onProcess (takeBytes stream none)).map Text.octetsOfArray)
    return some { isCommand, name, rest := text, ending }
  else
    match ← textOfFile name with
    | .ok text => return some { isCommand, name, rest := text }
    | .error _ => return none

/-- What comes of an attempt to read. -/
inductive Reading where
  | record (text : Octets)
  | atEnd
  | unreadable

/-- Read the next record of an input, which is opened if it is not open yet. -/
def readFrom (isCommand : Bool) (name : Octets) : Run Reading := do
  let isAt (input : Input) : Bool := input.isCommand == isCommand && input.name == name
  let input? ← match (← get).inputs.find? isAt with
    | some input => pure (some input)
    | none => openInput isCommand name
  match input? with
  | none => return .unreadable
  | some input =>
    let (reading, rest) ← match ← recordAt? input.rest with
      | some (record, rest) => pure (Reading.record record, rest)
      | none => pure (Reading.atEnd, [])
    modify fun m =>
      { m with inputs := { input with rest } :: m.inputs.filter fun other => !isAt other }
    return reading

/-- The name and the value of a variable that an argument sets, if it does. -/
def settingIn? (argument : Octets) : Option (String × Octets) :=
  let name := argument.takeWhile inName
  match argument.drop name.length with
  | '=' :: value =>
    if name.head?.any startsName then
      some (String.ofList name, unescapeText (value.length + 1) value)
    else none
  | _ => none

def setFromArgument (name : String) (value : Octets) : Run Unit := do
  let m ← get
  let isTable := match m.globals[name]? with
    | some (.table _) => true
    | _ => false
  let isTaken := match nameToken name with
    | .name _ => isTable || (m.functions.lookup name).isSome
    | _ => true
  if isTaken then
    runTimeError (ascii ("cannot command line assign to " ++ name ++ "\n\ttype clash or keyword"))
  setVariable name (.input value)

/-- Read the records of a file from now on. -/
def startSource (name : Octets) : Run Unit := do
  match ← textOfFile name with
  | .error cause => giveUp (ascii "cannot open \"" ++ name ++ ascii "\"" ++ causeIn cause)
  | .ok text =>
    setGlobal "FILENAME" (.text name)
    setGlobal "FNR" (.number 0.0)
    modify fun m => { m with source? := some text, anyFile := true }

/-- Go on to the file of the next argument; gives whether there is one. If no argument is a file, the
    standard input is read. -/
def nextSource : (fuel : Nat) → Run Bool
  | 0 => return false
  | fuel + 1 => do
    let m ← get
    if wholePart (← global "ARGC").toNumber ≤ m.argument then
      if m.anyFile then return false
      startSource ['-']
      return true
    modify fun m => { m with argument := m.argument + 1 }
    let value? := match m.globals["ARGV"]? with
      | some (.table id) =>
        (m.tables.getD id .empty).value? ⟨Text.decimal m.argument, some m.argument⟩
      | _ => none
    let argument ← textOf (value?.getD .unset)
    if argument.isEmpty then nextSource fuel
    else match settingIn? argument with
      | some (name, value) =>
        setFromArgument name value
        nextSource fuel
      | none =>
        startSource argument
        return true

/-- The next record of the files that the arguments name, if there is one. It is counted. -/
def nextRecord? : Run (Option Octets) := do
  let count := (wholePart (← global "ARGC").toNumber).toNat + 2
  let rec go : (fuel : Nat) → Run (Option Octets)
    | 0 => return none
    | fuel + 1 => do
      let m ← get
      match m.source? with
      | some rest =>
        match ← recordAt? rest with
        | some (record, rest) =>
          modify fun m => { m with source? := some rest }
          countUp "NR"
          countUp "FNR"
          return some record
        | none =>
          modify fun m => { m with source? := none }
          go fuel
      | none =>
        if m.ended then return none
        if ← nextSource count then go fuel
        else
          modify fun m => { m with ended := true }
          return none
  go (2 * count + 2)

/-! ## Closing -/

/-- Close the streams of a name; gives the number of their end, none if there is no such stream. -/
def closeNamed (name : Octets) : Run (Option Nat) := do
  let m ← get
  if name == ascii "/dev/stdout" then
    giveUpOn (← passOnStandard true)
    onProcess (close 1)
    return some 0
  let outputs := m.outputs.filter (·.name == name)
  let inputs := m.inputs.filter (·.name == name)
  modify fun m =>
    { m with outputs := m.outputs.filter (·.name != name)
             inputs := m.inputs.filter (·.name != name) }
  let mut status? : Option Nat := none
  for output in outputs do
    match ← output.finish with
    | some status => status? := some status
    | none => throw .failed
  for input in inputs do status? := some (endingNumber input.ending)
  return status?

/-- Close all streams; gives whether all could be written. -/
def closeAll : Run Bool := do
  let mut good := true
  for output in (← get).outputs do
    if (← output.finish).isNone then good := false
  modify fun m => { m with outputs := [] }
  match ← passOnStandard true with
  | none => return good
  | some cause =>
    let name := (← get).name
    onProcess (complainAs name (ascii "close failed on file \"/dev/stdout\"" ++ causeIn cause))
    return false

end AsmLayout.Host.Awk
