import AsmLayout.Host.Awk.Pattern
import AsmLayout.Host.Awk.Syntax
import AsmLayout.Host.Awk.Table
import AsmLayout.Host.Tool

/-! # What a program knows while it runs

A machine has variables and tables, the record with its fields, and streams that it has opened. The fields
are cut out of the record when one of them is needed, and the record is put together anew when one of them
is set.
-/

namespace AsmLayout.Host.Awk

open Text (Octets)

inductive Cell where
  | scalar (value : Value)
  | table (id : Nat)
  /-- It may still become a variable, or the table of the number. -/
  | undecided (id : Nat)
  deriving Repr

structure Waiting where
  /-- The last part is the first one here. -/
  parts : List Octets := []
  size : Nat := 0

def Waiting.add (waiting : Waiting) (text : Octets) : Waiting :=
  ⟨text :: waiting.parts, waiting.size + text.length⟩

def Waiting.all (waiting : Waiting) : Octets :=
  waiting.parts.reverse.flatten

structure Output where
  outlet : Outlet
  name : Octets
  /-- The stream of a file. What goes to a command waits till the command is run. -/
  stream : Nat
  waiting : Waiting := {}

structure Input where
  isCommand : Bool
  name : Octets
  rest : Octets
  /-- The end of the command. -/
  ending : Ending := .exited 0

structure Machine where
  process : Process
  launch : Launcher
  /-- The name by which mistakes are told. -/
  name : Octets
  functions : List (String × Function)
  globals : Std.HashMap String Cell
  /-- The names of the functions that run, the innermost one first. -/
  frames : List (List (String × Cell)) := []
  tables : Array Table := #[]
  record : Octets := []
  /-- What separated fields when the record was read. -/
  separator : Octets := [' ']
  fields? : Option (Array Value) := none
  /-- What waits for the standard output. -/
  waiting : Waiting := {}
  outputs : List Output := []
  inputs : List Input := []
  /-- What is left of the file whose records are read. -/
  source? : Option Octets := none
  /-- The next argument that names such a file, and whether there has been one. -/
  argument : Nat := 1
  anyFile : Bool := false
  /-- Whether the files have come to their end. -/
  ended : Bool := false
  /-- The rules that are between their first and their last record. -/
  inside : List Nat := []
  /-- The regular expressions of texts. -/
  regexes : Std.HashMap Octets Regex := {}
  /-- What the series of random numbers has been started with, and where it is. -/
  seed : Value := .unset
  series : Nat := 0
  /-- How many values the functions that run have got. -/
  depth : Nat := 0
  status : Nat := 0

/-- Why statements are left. -/
inductive Leave where
  | breakLoop
  | continueLoop
  | nextRecord
  | nextFile
  | returning (value : Value)
  | finishing
  /-- A mistake has been told. -/
  | failed

abbrev Run := ExceptT Leave (StateM Machine)

def onProcess {α : Type} (act : Act α) : Run α :=
  modifyGet fun m =>
    let (a, process) := act m.process
    (a, { m with process })

/-- Tell a mistake that has no place in the program, and give up. -/
def giveUp {α : Type} (message : Octets) : Run α := do
  let name := (← get).name
  onProcess (complainAs name message)
  throw .failed

/-! ## Variables -/

/-- What a name stands for in the innermost function or else in the program. -/
def cell? (name : String) : Run (Option Cell) := do
  let m ← get
  match m.frames with
  | frame :: _ =>
    match frame.lookup name with
    | some cell => return some cell
    | none => return m.globals[name]?
  | [] => return m.globals[name]?

/-- Let a name stand for something. -/
def setCell (name : String) (cell : Cell) : Run Unit :=
  modify fun m =>
    match m.frames with
    | frame :: frames =>
      if (frame.lookup name).isSome then
        { m with frames := (frame.map fun entry =>
            if entry.1 == name then (name, cell) else entry) :: frames }
      else { m with globals := m.globals.insert name cell }
    | [] => { m with globals := m.globals.insert name cell }

/-- A table without keys. -/
def newTable : Run Nat :=
  modifyGet fun m => (m.tables.size, { m with tables := m.tables.push .empty })

/-- What a name stands for; if nothing is known of it, it may become a table. -/
def cellOf (name : String) : Run Cell := do
  match ← cell? name with
  | some cell => return cell
  | none =>
    let cell := Cell.undecided (← newTable)
    setCell name cell
    return cell

def tableOf (name : String) : Run Nat := do
  match ← cellOf name with
  | .table id => return id
  | .undecided id =>
    setCell name (.table id)
    return id
  | .scalar _ => newTable

/-- Change a table. While it is changed nothing else refers to it. -/
def onTable {α : Type} (id : Nat) (act : Table → α × Table) : Run α :=
  modifyGet fun m =>
    let tables := m.tables
    let m := { m with tables := #[] }
    let table := tables.getD id .empty
    let tables := tables.setIfInBounds id .empty
    let (a, table) := act table
    (a, { m with tables := tables.setIfInBounds id table })

/-- The value of a variable of the program. -/
def global (name : String) : Run Value :=
  return match (← get).globals[name]? with
    | some (.scalar value) => value
    | _ => .unset

/-- The text of a variable of the program. -/
def globalText (name : String) : Run Octets :=
  return (← global name).toText (ascii "%.6g")

/-- Set a variable of the program. -/
def setGlobal (name : String) (value : Value) : Run Unit :=
  modify fun m => { m with globals := m.globals.insert name (.scalar value) }

/-- The format in which numbers become texts. -/
def convertFormat : Run Octets :=
  globalText "CONVFMT"

def textOf (value : Value) : Run Octets := do
  match value with
  | .number x => return numberText (← convertFormat) x
  | value => return value.toText []

/-- The regular expression of a text. -/
def regexOf (text : Octets) : Run Regex := do
  match (← get).regexes[text]? with
  | some regex => return regex
  | none =>
    match Pattern.read text with
    | .ok regex =>
      modify fun m => { m with regexes := m.regexes.insert text regex }
      return regex
    | .error cause =>
      let place := ascii "\n\tFILENAME=\"" ++ (← globalText "FILENAME") ++ ascii "\" FNR=" ++
        (← globalText "FNR") ++ ascii " NR=" ++ (← globalText "NR")
      giveUp (ascii ("run time error: regular expression compile failed (" ++ cause.message ++ ")\n") ++
        text ++ place)

/-- Tell a mistake of the running program, and give up. -/
def runTimeError {α : Type} (message : Octets) : Run α := do
  giveUp (ascii "run time error: " ++ message ++ ascii "\n\tFILENAME=\"" ++
    (← globalText "FILENAME") ++ ascii "\" FNR=" ++ (← globalText "FNR") ++ ascii " NR=" ++
    (← globalText "NR"))

/-! ## Fields -/

def wordsOf (text : Octets) : List Octets :=
  let isBlank (c : Char) : Bool := c == ' ' || c == '\t' || c == '\n'
  let rec go : (word : Octets) → Octets → List Octets
    | [], [] => []
    | word, [] => [word.reverse]
    | word, c :: rest =>
      if isBlank c then (if word.isEmpty then go [] rest else word.reverse :: go [] rest)
      else go (c :: word) rest
  go [] text

/-- The next part of a text that a regular expression fits and that is not empty, from a position on. -/
def nextPart (regex : Regex) (subject : Regex.Subject) : (fuel : Nat) → (position : Nat) →
    Option (Nat × Nat)
  | 0, _ => none
  | fuel + 1, position =>
    match regex.find? subject position with
    | none => none
    | some (start, fit) =>
      if start < fit.position then some (start, fit.position)
      else nextPart regex subject fuel (start + 1)

/-- The pieces of a text between the parts that a regular expression fits. -/
def piecesBetween (regex : Regex) (text : Octets) : List Octets :=
  let subject : Regex.Subject := { text := text.toArray }
  let rec go : (fuel : Nat) → (position : Nat) → List Octets
    | 0, position => [subject.part position text.length]
    | fuel + 1, position =>
      match nextPart regex subject (text.length + 1) position with
      | none => [subject.part position text.length]
      | some (start, stop) => subject.part position start :: go fuel stop
  go (text.length + 1) 0

/-- The pieces of a text between separators. -/
def cutText (separator : Octets) (text : Octets) : Run (List Octets) := do
  if text.isEmpty then return []
  match separator with
  | [' '] => return wordsOf text
  | [] => return text.map fun c => [c]
  | [c] => return Text.splitAtChar c text
  | separator => return piecesBetween (← regexOf separator) text

/-- Take a text for the record. -/
def setRecord (record : Octets) : Run Unit := do
  let separator ← globalText "FS"
  modify fun m => { m with record, separator, fields? := none }

def fields : Run (Array Value) := do
  let m ← get
  match m.fields? with
  | some fields => return fields
  | none =>
    let pieces ← cutText m.separator m.record
    let fields := (pieces.map Value.input).toArray
    modify fun m => { m with fields? := some fields }
    return fields

/-- Put the record together from fields. -/
def setFields (fields : Array Value) : Run Unit := do
  let separator ← globalText "OFS"
  let texts ← fields.toList.mapM textOf
  modify fun m => { m with record := separator.intercalate texts, fields? := some fields }

def greatestField : Nat := 100000

def fieldNumber (value : Value) : Run Nat := do
  let n := wholePart value.toNumber
  if n < 0 then runTimeError (ascii "negative field index $" ++ Text.signedDecimal n)
  else if (greatestField : Int) < n then
    runTimeError (ascii "maximum number of fields exceeded")
  else return n.toNat

/-- A field; the one of number zero is the record. -/
def field (n : Nat) : Run Value := do
  match n with
  | 0 => return .input (← get).record
  | n + 1 => return (← fields).getD n .unset

def setField (n : Nat) (value : Value) : Run Unit := do
  match n with
  | 0 => setRecord (← textOf value)
  | n + 1 =>
    let found ← fields
    let found := found ++ Array.replicate (n + 1 - found.size) Value.unset
    setFields (found.setIfInBounds n value)

def variableValue (name : String) : Run Value := do
  match ← cell? name with
  | some (.scalar value) => return value
  | some _ => return .unset
  | none => if name == "NF" then return .ofNat (← fields).size else return .unset

/-- Give up if what separates fields or records makes no sense. -/
def checkSeparator (separator : Octets) : Run Unit := do
  if 1 < separator.length then discard (regexOf separator)

def setVariable (name : String) (value : Value) : Run Unit := do
  if name == "NF" && (← cell? name).isNone then
    let n ← fieldNumber value
    let found ← fields
    setFields (found.extract 0 n ++ Array.replicate (n - found.size) Value.unset)
  else
    if name == "FS" || name == "RS" then checkSeparator (← textOf value)
    setCell name (.scalar value)

def countUp (name : String) : Run Unit := do
  setGlobal name (.number ((← global name).toNumber + 1.0))

end AsmLayout.Host.Awk
