import AsmLayout.Host.Awk.Streams
import AsmLayout.Host.Awk.Substitution

/-! # The values of expressions

Operands are evaluated from left to right. What is set is told by a place, which is found before the new
value is worked out.
-/

namespace AsmLayout.Host.Awk

open Text (Octets)

/-- What expressions inside others, and the statements of functions, are evaluated with. -/
structure Evaluator where
  value : Expr → Run Value
  run : Statement → Run Unit

namespace Evaluator

def number (e : Evaluator) (expr : Expr) : Run Float :=
  return (← e.value expr).toNumber

def text (e : Evaluator) (expr : Expr) : Run Octets := do
  textOf (← e.value expr)

end Evaluator

/-! ## Places -/

/-- Something that can be set. -/
inductive Place where
  | named (name : String)
  | element (table : Nat) (key : Table.Key)
  | field (n : Nat)

/-- Whole numbers below this one, and above its opposite, are keys by themselves. -/
def firstLargeKey : Int := 0x80000000

def keyOf (value : Value) : Run Table.Key := do
  let text ← textOf value
  match value with
  | .number x =>
    match whole? x with
    | some n =>
      return if -firstLargeKey < n && n < firstLargeKey then ⟨Text.signedDecimal n, some n⟩
        else ⟨text, none⟩
    | none => return ⟨text, none⟩
  | _ => return ⟨text, none⟩

/-- The key that expressions are. Several ones are joined. -/
def keyOfAll (e : Evaluator) (keys : List Expr) : Run Table.Key := do
  match keys with
  | [key] => keyOf (← e.value key)
  | keys =>
    let texts ← keys.mapM e.text
    return ⟨(← globalText "SUBSEP").intercalate texts, none⟩

/-- The place that an expression stands for. -/
def placeOf (e : Evaluator) (expr : Expr) : Run Place := do
  match expr with
  | .named name => return .named name
  | .element table keys =>
    let key ← keyOfAll e keys
    let id ← tableOf table
    onTable id fun found => ((), found.touch true key)
    return .element id key
  | .field number => return .field (← fieldNumber (← e.value number))
  | _ => return .field 0

def Place.value : Place → Run Value
  | named name => variableValue name
  | element id key => onTable id fun found => ((found.value? key).getD .unset, found)
  | field n => Awk.field n

def Place.set (place : Place) (value : Value) : Run Unit :=
  match place with
  | named name => setVariable name value
  | element id key => onTable id fun found => ((), found.set key value)
  | field n => setField n value

/-! ## Operations -/

/-- The number that an operation gives. -/
def Operation.result (operation : Operation) (x y : Float) : Float :=
  match operation with
  | add => x + y
  | subtract => x - y
  | multiply => x * y
  | divide => x / y
  | modulo => remainder x y
  | power => x.pow y

/-- Set something; the value is the new one. -/
def assignTo (e : Evaluator) (operation? : Option Operation) (target value : Expr) : Run Value := do
  let place ← placeOf e target
  let new ← e.value value
  let new ← match operation? with
    | none => pure new
    | some operation =>
      pure (.number (operation.result (← place.value).toNumber new.toNumber))
  place.set new
  return new

/-- Add one or take one away. -/
def stepAt (e : Evaluator) (up old : Bool) (target : Expr) : Run Value := do
  let place ← placeOf e target
  let before := (← place.value).toNumber
  let after := if up then before + 1.0 else before - 1.0
  place.set (.number after)
  return .number (if old then before else after)

/-- The regular expression that an expression stands for. -/
def regexOfExpr (e : Evaluator) (expr : Expr) : Run Regex := do
  match expr with
  | .pattern regex => return regex
  | expr => regexOf (← e.text expr)

/-- Whether the regular expression of an expression fits a text. -/
def fitsText (e : Evaluator) (text : Octets) (regex : Expr) : Run Bool :=
  return (← regexOfExpr e regex).occurs false text

/-! ## Reading -/

/-- Read a record into a variable, or as the record if there is none; the value tells whether there was one. -/
def takeReading (e : Evaluator) (target? : Option Expr) (reading : Reading) : Run Value := do
  match reading with
  | .unreadable => return .number (-1.0)
  | .atEnd => return .number 0.0
  | .record text =>
    match target? with
    | none => setRecord text
    | some target => (← placeOf e target).set (.input text)
    return .number 1.0

/-! ## Functions of the program -/

/-- How many values the functions that run can have. -/
def mostValues : Nat := 1006

/-- Give up because functions call each other too often. -/
def overflow {α : Type} : Run α :=
  giveUp (ascii "program limit exceeded: eval stack size=1024")

/-- What an argument of a function stands for. A name that is not known yet may become a table there. -/
def argumentCell (e : Evaluator) (argument : Expr) : Run Cell := do
  match argument with
  | .named name =>
    if name == "NF" then return .scalar (← variableValue name)
    cellOf name
  | argument => return .scalar (← e.value argument)

def callFunction (e : Evaluator) (name : String) (arguments : List Expr) : Run Value := do
  let cells ← arguments.mapM (argumentCell e)
  let m ← get
  match m.functions.lookup name with
  | none => return .unset
  | some function =>
    let missing ← (function.parameters.drop cells.length).mapM fun _ =>
      return Cell.undecided (← newTable)
    let depth := m.depth + function.parameters.length
    if mostValues < depth then overflow
    modify fun m => { m with frames := function.parameters.zip (cells ++ missing) :: m.frames, depth }
    let result ← ExceptT.lift (function.body.forM e.run).run
    modify fun other => { other with frames := other.frames.drop 1, depth := m.depth }
    match result with
    | .ok () => return .unset
    | .error (.returning value) => return value
    | .error leave => throw leave

/-! ## Functions that are known from the start -/

/-- What is said when values cannot be laid out. -/
def complainOfLayout {α : Type} (function : String) (format : Octets) (fault : LayoutFault) : Run α := do
  let shown := ascii (function ++ "(\"") ++ format ++ ascii "\")"
  match fault with
  | .missing => runTimeError (ascii "not enough arguments passed to " ++ shown)
  | .improper number =>
    runTimeError (ascii s!"improper conversion(number {number}) in " ++ shown)

/-- The values of expressions laid out in the way that the first one tells: the format, the text so far and
    what is wrong if anything is. -/
def layOutAll (e : Evaluator) (values : List Expr) : Run (Octets × Octets × Option LayoutFault) := do
  let values ← values.mapM e.value
  let format ← textOf (values.headD .unset)
  let format := format.takeWhile (· != '\x00')
  let (parts, fault?) := layOut (← convertFormat) (format.length + 1) 1 [] format (values.drop 1)
  return (format, parts.reverse.flatten, fault?)

/-- How long a text is, or how many keys a table has. -/
def lengthOf (e : Evaluator) (arguments : List Expr) : Run Value := do
  match arguments with
  | [.named name] =>
    match ← cell? name with
    | some (.table id) | some (.undecided id) =>
      return .ofNat ((← get).tables.getD id .empty).size
    | _ => return .ofNat (← textOf (← variableValue name)).length
  | argument :: _ => return .ofNat (← e.text argument).length
  | [] => return .ofNat (← get).record.length

/-- Cut a text into the elements of a table; the value is their number. -/
def splitInto (e : Evaluator) (arguments : List Expr) : Run Value := do
  match arguments with
  | text :: .named name :: separator? =>
    let text ← e.text text
    let pieces ← match separator? with
      | [] => cutText (← globalText "FS") text
      | .pattern regex :: _ => pure (if text.isEmpty then [] else piecesBetween regex text)
      | separator :: _ => cutText (← e.text separator) text
    let id ← tableOf name
    onTable id fun _ => ((), .ofList (pieces.map .input))
    return .ofNat pieces.length
  | _ => return .unset

/-- Find where a regular expression fits a text. -/
def findFit (e : Evaluator) (subject regex : Expr) : Run Value := do
  let text ← e.text subject
  let regex ← regexOfExpr e regex
  let (place, length) : Float × Float := match regex.find? { text := text.toArray } 0 with
    | some (start, fit) => (Float.ofNat (start + 1), Float.ofNat (fit.position - start))
    | none => (0.0, -1.0)
  setGlobal "RSTART" (.number place)
  setGlobal "RLENGTH" (.number length)
  return .number place

/-- Put a text in the place of parts of something, the record if nothing else is told; the value is how
    many parts there were. -/
def substitute (e : Evaluator) (all : Bool) (arguments : List Expr) : Run Value := do
  match arguments with
  | regex :: filling :: target? =>
    let regex ← regexOfExpr e regex
    let filling ← e.text filling
    let place ← match target? with
      | target :: _ => placeOf e target
      | [] => pure (Place.field 0)
    let (text, count) := replaceIn regex filling all (← textOf (← place.value))
    if 0 < count then place.set (.text text)
    return .ofNat count
  | _ => return .unset

/-- The next number of a series without a plan, from zero on and below one. -/
def nextRandom : Run Float :=
  modifyGet fun m =>
    let series := (m.series * 1103515245 + 12345) % 0x80000000
    (Float.ofNat series / 2147483648.0, { m with series })

/-- Start another series; the value is what the one before has been started with. -/
def startSeries (e : Evaluator) (arguments : List Expr) : Run Value := do
  let seed ← match arguments with
    | argument :: _ => e.value argument
    | [] => pure (.ofNat 0)
  let old := (← get).seed
  modify fun m => { m with seed, series := (wholePart seed.toNumber).natAbs }
  return old

/-- Pass on what is held for a stream, for the standard output or for all. -/
def passOnFor (e : Evaluator) (arguments : List Expr) : Run Value := do
  match arguments with
  | [] =>
    giveUpOn (← passOnStandard true)
    return .ofNat 0
  | argument :: _ =>
    let name ← e.text argument
    let known := (← get).outputs.any (·.name == name)
    passOnAll
    return if known || name.isEmpty || name == ascii "/dev/stdout" || name == ascii "/dev/stderr"
      then .ofNat 0 else .number (-1.0)

/-- A number without its fraction. -/
def cutFraction (x : Float) : Float :=
  if x < 0.0 then x.ceil else x.floor

def knownValue (e : Evaluator) (function : Known) (arguments : List Expr) : Run Value := do
  let first : Expr := arguments.headD (.text [])
  let second : Expr := (arguments.drop 1).headD (.text [])
  match function with
  | .length => lengthOf e arguments
  | .substr =>
    let text ← e.text first
    let start := wholePart (← e.number second)
    match arguments.drop 2 with
    | length :: _ => return .text (partOf text start (some (wholePart (← e.number length))))
    | [] => return .text (partOf text start none)
  | .index =>
    let text ← e.text first
    let wanted ← e.text second
    return .ofNat (placeIn wanted 1 text)
  | .split => splitInto e arguments
  | .fit => findFit e first second
  | .sub => substitute e false arguments
  | .gsub => substitute e true arguments
  | .sprintf =>
    match ← layOutAll e arguments with
    | (_, text, none) => return .text text
    | (format, _, some fault) => complainOfLayout "sprintf" format fault
  | .sin => return .number (← e.number first).sin
  | .cos => return .number (← e.number first).cos
  | .atan2 =>
    let y ← e.number first
    return .number (y.atan2 (← e.number second))
  | .exp => return .number (← e.number first).exp
  | .log => return .number (← e.number first).log
  | .sqrt => return .number (← e.number first).sqrt
  | .int => return .number (cutFraction (← e.number first))
  | .rand => return .number (← nextRandom)
  | .srand => startSeries e arguments
  | .toupper => return .text ((← e.text first).map Char.toUpper)
  | .tolower => return .text ((← e.text first).map Char.toLower)
  | .system =>
    let command ← e.text first
    passOnAll
    return .ofNat (endingNumber (← runCommand (ascii "sh") (pure ()) command))
  | .close =>
    match ← closeNamed (← e.text first) with
    | some status => return .ofNat status
    | none => return .number (-1.0)
  | .fflush => passOnFor e arguments
  | .systime => return .ofNat 0

/-! ## Expressions -/

def valueOfExpr (e : Evaluator) (expr : Expr) : Run Value := do
  match expr with
  | .number x => return .number x
  | .text text => return .text text
  | .pattern regex => return .ofBool (regex.occurs false (← get).record)
  | .named name => variableValue name
  | .element _ _ => (← placeOf e expr).value
  | .field number => field (← fieldNumber (← e.value number))
  | .assign operation target value => assignTo e operation target value
  | .choice test whenTrue whenFalse =>
    if (← e.value test).isTrue then e.value whenTrue else e.value whenFalse
  | .both first second =>
    if (← e.value first).isTrue then return .ofBool (← e.value second).isTrue
    return .ofBool false
  | .either first second =>
    if (← e.value first).isTrue then return .ofBool true
    return .ofBool (← e.value second).isTrue
  | .not inner => return .ofBool (!(← e.value inner).isTrue)
  | .negate inner => return .number (-(← e.number inner))
  | .plus inner => return .number (← e.number inner)
  | .calculate operation first second =>
    let x ← e.number first
    return .number (operation.result x (← e.number second))
  | .compare sign first second =>
    let a ← e.value first
    let b ← e.value second
    return .ofBool (Value.compare (← convertFormat) sign a b)
  | .join first second =>
    let a ← e.value first
    let b ← e.value second
    return .text ((← textOf a) ++ (← textOf b))
  | .fits negated subject regex =>
    let text ← e.text subject
    return .ofBool ((← fitsText e text regex) != negated)
  | .isIn keys table =>
    let key ← keyOfAll e keys
    let id ← tableOf table
    onTable id fun found => (.ofBool (found.value? key).isSome, found.touch false key)
  | .step up old target => stepAt e up old target
  | .known function arguments => knownValue e function arguments
  | .call name arguments => callFunction e name arguments
  | .read target? =>
    match ← nextRecord? with
    | some text => takeReading e target? (.record text)
    | none => return .number 0.0
  | .readFile target? path =>
    let name ← e.text path
    takeReading e target? (← readFrom false name)
  | .readCommand target? command =>
    let name ← e.text command
    takeReading e target? (← readFrom true name)
  | .group inner => e.value inner

end AsmLayout.Host.Awk
