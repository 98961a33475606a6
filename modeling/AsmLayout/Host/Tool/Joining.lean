import AsmLayout.Host.Tool.Sorting

/-! # The tool that joins the lines of two files

Lines are joined whose keys are the same. A key is a field of the line, and the lines of both files stand in
the order of their keys. Whether they do is only looked at once a line has no partner, unless it is asked for.
-/

namespace AsmLayout.Host

open Text (Octets)

structure FieldLine where
  number : Nat
  text : Octets
  fields : Array Octets
  deriving Repr, DecidableEq

/-- A field of the output: the key, or a field of one of the files. -/
inductive OutputField where
  | key
  | field (file column : Nat)
  deriving Repr, DecidableEq

structure JoinRules where
  /-- The columns of the keys. -/
  firstKey : Nat
  secondKey : Nat
  separator? : Option Char
  folded : Bool
  /-- What stands for fields that are not there. -/
  filler : Octets
  /-- The files of which lines without a partner are shown. -/
  alone : List Nat
  showsPairs : Bool
  output : List OutputField
  /-- How many fields the lines of each file are shown with. -/
  counts? : Option (Nat × Nat)
  /-- Whether the order is looked at: always, never, or once a line has no partner. -/
  check? : Option Bool

namespace JoinRules

def fieldsOf (separator? : Option Char) (line : Octets) : Array Octets :=
  match separator? with
  | some c => (Text.splitAtChar c line).toArray
  | none => ((Text.splitAtChar ' ' (line.map fun c => if c = '\t' then ' ' else c)).filter
      fun field => !field.isEmpty).toArray

def keyOf (rules : JoinRules) (file : Nat) (line : FieldLine) : Octets :=
  let key := line.fields.getD (if file = 1 then rules.firstKey else rules.secondKey) []
  if rules.folded then key.map Char.toUpper else key

/-- A field of a line, or what stands for it. -/
def shownField (rules : JoinRules) (line? : Option FieldLine) (column : Nat) : Octets :=
  match line?.bind fun line => line.fields[column]? with
  | some [] | none => rules.filler
  | some field => field

/-- The line that comes out of two lines, or of one that has no partner. -/
def joined (rules : JoinRules) (first? second? : Option FieldLine) : Octets :=
  let separator := [rules.separator?.getD ' ']
  let key := match first? with
    | some line => rules.shownField (some line) rules.firstKey
    | none => rules.shownField second? rules.secondKey
  if rules.output.isEmpty then
    let others (line? : Option FieldLine) (count? : Option Nat) (keyColumn : Nat) : List Octets :=
      let count := count?.getD ((line?.map fun line => line.fields.size).getD 0)
      ((List.range count).filter (· != keyColumn)).map (rules.shownField line?)
    separator.intercalate (key :: others first? (rules.counts?.map (·.1)) rules.firstKey ++
      others second? (rules.counts?.map (·.2)) rules.secondKey)
  else
    separator.intercalate (rules.output.map fun
      | .key => key
      | .field 1 column => rules.shownField first? column
      | .field _ column => rules.shownField second? column)

end JoinRules

/-- One of two files that are joined. -/
structure JoinSide where
  file : Nat
  name : Octets
  lines : List FieldLine
  /-- That the lines are not in order has been told. -/
  told : Bool := false

/-- What is shown when files are joined. -/
inductive JoinOutput where
  | line (text : Octets)
  | complaint (text : Octets)
  deriving Repr, DecidableEq

/-- How far joining has come. -/
structure JoinState where
  /-- What is shown, the last one first. -/
  shown : List JoinOutput := []
  /-- A line had no partner. -/
  unpaired : Bool := false
  /-- Nothing more is done. -/
  stopped : Bool := false

/-- Pass a line of a file and look whether the next one is in order. -/
def JoinSide.advance (rules : JoinRules) (side : JoinSide) (state : JoinState) : JoinSide × JoinState :=
  match side.lines with
  | last :: next :: lines =>
    let passed := { side with lines := next :: lines }
    let looks := rules.check?.getD state.unpaired
    let isWrong := compareBytes (rules.keyOf side.file last) (rules.keyOf side.file next) == .gt
    if looks && !side.told && !state.stopped && isWrong then
      let message := side.name ++ ascii s!":{next.number}: is not sorted: " ++ next.text
      ({ passed with told := true },
        { state with
          shown := .complaint message :: state.shown
          stopped := rules.check? = some true })
    else (passed, state)
  | _ => ({ side with lines := [] }, state)

/-- Pass the lines of a file that have a key; gives them too. -/
def JoinSide.passKey (rules : JoinRules) (key : Octets) :
    (fuel : Nat) → JoinSide → JoinState → List FieldLine × JoinSide × JoinState
  | 0, side, state => ([], side, state)
  | fuel + 1, side, state =>
    match side.lines with
    | line :: _ =>
      if rules.keyOf side.file line == key then
        let (side, state) := side.advance rules state
        let (lines, side, state) := passKey rules key fuel side state
        (line :: lines, side, state)
      else ([], side, state)
    | [] => ([], side, state)

/-- Pass the lines that are left of a file when the other one has ended. -/
def JoinSide.passRest (rules : JoinRules) : (fuel : Nat) → JoinSide → JoinState → JoinSide × JoinState
  | 0, side, state => (side, state)
  | fuel + 1, side, state =>
    match side.lines with
    | line :: _ =>
      let alone := if side.file = 1 then rules.joined (some line) none else rules.joined none (some line)
      let state := if rules.alone.contains side.file && !state.stopped then
          { state with shown := .line alone :: state.shown }
        else state
      let (side, state) := side.advance rules state
      passRest rules fuel side state
    | [] => (side, state)

/-- Join the lines of two files. -/
def joinSides (rules : JoinRules) :
    (fuel : Nat) → (first second : JoinSide) → JoinState → JoinSide × JoinSide × JoinState
  | 0, first, second, state => (first, second, state)
  | fuel + 1, first, second, state =>
    if state.stopped then (first, second, state)
    else match first.lines, second.lines with
    | a :: _, b :: _ =>
      let key := rules.keyOf 1 a
      let alone (side : JoinSide) (text : Octets) : JoinSide × JoinState :=
        let state := if rules.alone.contains side.file then
            { state with shown := .line text :: state.shown }
          else state
        let (side, state) := side.advance rules state
        (side, { state with unpaired := true })
      match compareBytes key (rules.keyOf 2 b) with
      | .lt =>
        let (first, state) := alone first (rules.joined (some a) none)
        joinSides rules fuel first second state
      | .gt =>
        let (second, state) := alone second (rules.joined none (some b))
        joinSides rules fuel first second state
      | .eq =>
        let (as, first, state) := first.passKey rules key (first.lines.length + 1) state
        let (bs, second, state) := second.passKey rules key (second.lines.length + 1) state
        let pairs := as.flatMap fun a => bs.map fun b => JoinOutput.line (rules.joined (some a) (some b))
        let state := if rules.showsPairs && !state.stopped then
            { state with shown := pairs.reverse ++ state.shown }
          else state
        joinSides rules fuel first second state
    | _, _ =>
      let (first, state) := first.passRest rules (first.lines.length + 1) state
      let (second, state) := second.passRest rules (second.lines.length + 1) state
      (first, second, state)

/-- A column by its number, which starts from one. -/
def columnOf (text : Octets) : Except Octets Nat :=
  match if text.all Char.isDigit then (String.ofList text).toNat? else none with
  | some (n + 1) => .ok n
  | _ => .error (ascii "invalid field number: " ++ inMarks text)

def outputFields (text : Octets) : Except Octets (List OutputField) :=
  let words := (Text.splitAtChar ' ' (text.map fun c => if c = ',' || c = '\t' then ' ' else c)).filter
    fun word => !word.isEmpty
  words.mapM fun
    | ['0'] => .ok .key
    | '1' :: '.' :: column => return .field 1 (← columnOf column)
    | '2' :: '.' :: column => return .field 2 (← columnOf column)
    | word => .error (ascii "invalid file number in field spec: " ++ inMarks word)

/-- How a call wants lines to be joined. -/
def joinRulesOf (call : Call) : Except Octets JoinRules := do
  let column (letter : Char) : Except Octets Nat :=
    match (call.value? letter).orElse fun _ => call.value? 'j' with
    | some text => columnOf text
    | none => .ok 0
  let firstKey ← column '1'
  let secondKey ← column '2'
  let files (letter : Char) : Except Octets (List Nat) :=
    (call.options.filter fun option => option.1 = letter).mapM fun (_, text) =>
      match text with
      | ['1'] => .ok 1
      | ['2'] => .ok 2
      | text => .error (ascii "invalid field number: " ++ inMarks text)
  let besides ← files 'a'
  let only ← files 'v'
  let separator? : Option Char ← match call.value? 't' with
    | none => pure none
    | some [] => pure (some '\n')
    | some ['\\', '0'] => pure (some '\x00')
    | some [c] => pure (some c)
    | some text => throw (ascii "multi-character tab " ++ inMarks text)
  let wishes := (call.options.filter fun option => option.1 = 'o').map (·.2)
  let output ← (wishes.filter (· != ascii "auto")).mapM outputFields
  return {
    firstKey, secondKey, separator?, folded := call.has 'i', filler := (call.value? 'e').getD []
    alone := besides ++ only, showsPairs := only.isEmpty, output := output.flatten
    counts? := if wishes.contains (ascii "auto") then some (0, 0) else none
    check? := match call.last? ['c', 'n'] with
      | some 'c' => some true
      | some _ => some false
      | none => none }

def joinFiles : Tool := fun _ =>
  withTable
    { flags := "izcnH", valued := "aevj12to"
      long := [("ignore-case", 'i'), ("zero-terminated", 'z'), ("check-order", 'c'),
        ("nocheck-order", 'n'), ("header", 'H')] } 1
    fun call => do
      let fail (message : Octets) : Act Nat := do
        complainAs call.name message
        return 1
      match joinRulesOf call with
      | .error message => fail message
      | .ok rules =>
        match call.operands with
        | [] =>
          complainOfWords call.name (ascii "missing operand")
          return 1
        | [one] =>
          complainOfWords call.name (ascii "missing operand after " ++ inMarks one)
          return 1
        | _ :: _ :: extra :: _ =>
          complainOfWords call.name (ascii "extra operand " ++ inMarks extra)
          return 1
        | [one, two] =>
          if one = ['-'] && two = ['-'] then return ← fail (ascii "both files cannot be standard input")
          let ending := if call.has 'z' then '\x00' else '\n'
          let sideOf (file : Nat) (name text : Octets) : JoinSide :=
            let lines := Text.splitAtChar ending text
            let lines := if lines.getLast? = some [] then lines.dropLast else lines
            { file, name, lines := (lines.zipIdx 1).map fun (line, number) =>
                ⟨number, line, JoinRules.fieldsOf rules.separator? line⟩ }
          match ← readOperand one with
          | .error cause =>
            complainOfFile call.name one cause
            return 1
          | .ok firstText =>
            match ← readOperand two with
            | .error cause =>
              complainOfFile call.name two cause
              return 1
            | .ok secondText =>
              let first := sideOf 1 one firstText
              let second := sideOf 2 two secondText
              let sizeOf (side : JoinSide) : Nat :=
                (side.lines.head?.map fun line => line.fields.size).getD 0
              let rules := { rules with
                counts? := rules.counts?.map fun _ => (sizeOf first, sizeOf second) }
              if call.has 'H' && !(first.lines.isEmpty && second.lines.isEmpty) then
                print (rules.joined first.lines.head? second.lines.head? ++ [ending])
              let drop (side : JoinSide) : JoinSide :=
                if call.has 'H' then { side with lines := side.lines.drop 1 } else side
              let first := drop first
              let second := drop second
              let (first, second, state) := joinSides rules (first.lines.length + second.lines.length + 1)
                first second {}
              for shown in state.shown.reverse do
                match shown with
                | .line text => print (text ++ [ending])
                | .complaint message => complainAs call.name message
              if state.stopped then return 1
              if first.told || second.told then fail (ascii "input is not in sorted order")
              else return 0

end AsmLayout.Host
