import AsmLayout.Host.Awk.Evaluation

/-! # Runs of programs

A program runs its first rules, then those for each record, then the last ones. Whatever ends it, its
streams are closed.
-/

namespace AsmLayout.Host.Awk

open Text (Octets)

/-! ## Statements -/

/-- How often a loop can go round. -/
def longestLoop : Nat := 100000000

/-- How deep expressions and statements can stand inside each other, calls of functions included. -/
def deepestNesting : Nat := 12000

/-- Run the body of a loop; gives whether the loop goes on. -/
def runBody (e : Evaluator) (body : Statement) : Run Bool := fun m =>
  match e.run body m with
  | (.ok (), m) | (.error .continueLoop, m) => (.ok true, m)
  | (.error .breakLoop, m) => (.ok false, m)
  | (.error leave, m) => (.error leave, m)

/-- Run a loop: the test and then the body, and what comes between two rounds. -/
def runLoop (test : Run Bool) (body : Run Bool) (between : Run Unit) : (fuel : Nat) → Run Unit
  | 0 => return ()
  | fuel + 1 => do
    if !(← test) then return
    if !(← body) then return
    between
    runLoop test body between fuel

def runForKeys (name : String) (body : Run Bool) : List Octets → Run Unit
  | [] => return ()
  | key :: keys => do
    setVariable name (.text key)
    if !(← body) then return
    runForKeys name body keys

def printWhere (e : Evaluator) (outlet? : Option (Outlet × Expr)) (text : Octets) : Run Unit := do
  match outlet? with
  | none => printStandard text
  | some (outlet, name) => printTo outlet (← e.text name) text

def printedText (value : Value) : Run Octets := do
  match value with
  | .number x => return numberText (← globalText "OFMT") x
  | value => return value.toText []

/-- Print values, or the record if there are none. -/
def printValues (e : Evaluator) (values : List Expr) (outlet? : Option (Outlet × Expr)) : Run Unit := do
  let texts ← match values with
    | [] => pure [(← get).record]
    | values => (← values.mapM e.value).mapM printedText
  let ending ← globalText "ORS"
  match texts with
  | [text] => printWhere e outlet? (text ++ ending)
  | texts => printWhere e outlet? ((← globalText "OFS").intercalate texts ++ ending)

/-- Print values in the way that the first one tells. -/
def printLaidOut (e : Evaluator) (values : List Expr) (outlet? : Option (Outlet × Expr)) : Run Unit := do
  let (format, text, fault?) ← layOutAll e values
  printWhere e outlet? text
  match fault? with
  | none => return ()
  | some fault => complainOfLayout "printf" format fault

def setStatus (value : Value) : Run Unit :=
  modify fun m => { m with status := (wholePart value.toNumber % 256).toNat }

def runStatement (e : Evaluator) (statement : Statement) : Run Unit := do
  match statement with
  | .expression expr => discard (e.value expr)
  | .print values outlet? => printValues e values outlet?
  | .printf values outlet? => printLaidOut e values outlet?
  | .block statements => statements.forM e.run
  | .choose test whenTrue whenFalse? =>
    if (← e.value test).isTrue then e.run whenTrue
    else match whenFalse? with
      | some whenFalse => e.run whenFalse
      | none => return ()
  | .whileTrue test body =>
    runLoop (return (← e.value test).isTrue) (runBody e body) (pure ()) longestLoop
  | .doWhile body test =>
    if ← runBody e body then
      runLoop (return (← e.value test).isTrue) (runBody e body) (pure ()) longestLoop
  | .loop start? test? next? body =>
    match start? with
    | some start => e.run start
    | none => pure ()
    let test : Run Bool := match test? with
      | some test => return (← e.value test).isTrue
      | none => return true
    let between : Run Unit := match next? with
      | some next => e.run next
      | none => return ()
    runLoop test (runBody e body) between longestLoop
  | .forKeys name table body =>
    let id ← tableOf table
    let keys ← onTable id Table.keys
    runForKeys name (runBody e body) keys
  | .delete table keys? =>
    match keys? with
    | some keys =>
      let key ← keyOfAll e keys
      let id ← tableOf table
      onTable id fun found => ((), found.remove key)
    | none =>
      let id ← tableOf table
      onTable id fun _ => ((), .empty)
  | .breakLoop => throw .breakLoop
  | .continueLoop => throw .continueLoop
  | .nextRecord => throw .nextRecord
  | .nextFile => throw .nextFile
  | .exit status? =>
    match status? with
    | some status => setStatus (← e.value status)
    | none => pure ()
    throw .finishing
  | .returning value? =>
    match value? with
    | some value => throw (.returning (← e.value value))
    | none => throw (.returning .unset)

/-- An evaluator for expressions and statements that are at most so deep inside each other. -/
def evaluatorAt : (depth : Nat) → Evaluator
  | 0 => { value := fun _ => overflow, run := fun _ => overflow }
  | depth + 1 =>
    { value := fun expr m => valueOfExpr (evaluatorAt depth) expr m
      run := fun statement m => runStatement (evaluatorAt depth) statement m }

/-! ## Programs -/

def isChosen (e : Evaluator) (number : Nat) (pattern : Pattern) : Run Bool := do
  let enter : Run Unit := modify fun m => { m with inside := number :: m.inside }
  let leave : Run Unit := modify fun m => { m with inside := m.inside.filter (· != number) }
  match pattern with
  | .start | .finish => return false
  | .always => return true
  | .when test => return (← e.value test).isTrue
  | .range first last =>
    let isInside := (← get).inside.contains number
    if !isInside && !(← e.value first).isTrue then return false
    if (← e.value last).isTrue then leave
    else if !isInside then enter
    return true

def runRules (e : Evaluator) : (number : Nat) → List Rule → Run Unit
  | _, [] => return ()
  | number, rule :: rules => do
    if ← isChosen e number rule.pattern then
      match rule.body? with
      | some body => body.forM e.run
      | none => printValues e [] none
    runRules e (number + 1) rules

def runRecords (e : Evaluator) (rules : List Rule) : (fuel : Nat) → Run Unit
  | 0 => return ()
  | fuel + 1 => do
    match ← nextRecord? with
    | none => return ()
    | some text =>
      setRecord text
      match ← ExceptT.lift (runRules e 0 rules).run with
      | .ok () | .error .nextRecord => runRecords e rules fuel
      | .error .nextFile =>
        modify fun m => { m with source? := none }
        runRecords e rules fuel
      | .error leave => throw leave

/-- Run the rules at the start or at the end. -/
def runBorder (e : Evaluator) (isPlace : Pattern → Bool) (rules : List Rule) : Run Unit :=
  rules.forM fun rule => if isPlace rule.pattern then (rule.body?.getD []).forM e.run else return ()

def Pattern.isStart : Pattern → Bool
  | start => true
  | _ => false

def Pattern.isFinish : Pattern → Bool
  | finish => true
  | _ => false

/-- Run statements that an exit leaves. -/
def upToExit (act : Run Unit) : Run Unit := fun m =>
  match act m with
  | (.error .finishing, m) => (.ok (), m)
  | result => result

def runProgram (program : Program) : Run Unit := do
  let e := evaluatorAt deepestNesting
  let rules := program.rules.filter fun rule => !rule.pattern.isStart
  let atRecords := rules.filter fun rule => !rule.pattern.isFinish
  upToExit do
    runBorder e Pattern.isStart program.rules
    if !rules.isEmpty then runRecords e atRecords longestLoop
  upToExit (runBorder e Pattern.isFinish rules)

/-- Run a program and close its streams; gives its status. -/
def conclude (program : Program) : Run Nat := do
  let result ← ExceptT.lift (runProgram program).run
  let closed ← closeAll
  match result with
  | .ok () =>
    if closed then return (← get).status
    return 2
  | .error _ => return 2

/-! ## The start -/

/-- The variables that are there from the start, with the arguments and the environment. -/
def startVariables (arguments : List Octets) (environment : List (Octets × Octets)) (m : Machine) :
    Machine :=
  let words : Table := arguments.zipIdx.foldl (fun table (argument, n) =>
    table.set ⟨Text.decimal n, some n⟩ (.input argument)) .empty
  let exported : Table := environment.foldl (fun table (name, value) =>
    table.set ⟨name, none⟩ (.input value)) .empty
  let numbers := [("NR", 0.0), ("FNR", 0.0), ("RSTART", 0.0), ("RLENGTH", -1.0),
    ("ARGC", Float.ofNat arguments.length)].map fun (name, x) => (name, Cell.scalar (.number x))
  let texts := [("FS", " "), ("OFS", " "), ("RS", "\n"), ("ORS", "\n"), ("SUBSEP", "\x1c"),
    ("CONVFMT", "%.6g"), ("OFMT", "%.6g"), ("FILENAME", "")].map fun (name, text) =>
      (name, Cell.scalar (.text (ascii text)))
  { m with
    tables := #[words, exported]
    globals := Std.HashMap.ofList
      (("ARGV", .table 0) :: ("ENVIRON", .table 1) :: numbers ++ texts) }

end AsmLayout.Host.Awk
