import AsmLayout.Host.Awk.Token

/-! # The grammar of programs

Operands are joined by signs of several levels. A variable that is followed by a sign that sets it takes all
of the expression behind that sign.
-/

namespace AsmLayout.Host.Awk

open Text (Octets)

/-! ## Names -/

def builtinVariables : List String :=
  ["NR", "FNR", "NF", "FS", "OFS", "RS", "ORS", "FILENAME", "SUBSEP", "RSTART", "RLENGTH", "CONVFMT",
   "OFMT", "ARGC"]

def builtinTables : List String :=
  ["ENVIRON", "ARGV"]

/-- Keep in mind what a name is used for. A name is used for a variable or for a table. -/
def useAs (use : Use) (name : String) : Parse Unit := do
  let s ← get
  let kind (use : Use) : String := match use with
    | .scalar => "variable"
    | .table => "array"
  match s.parameters.lookup name with
  | some none =>
    set { s with parameters := s.parameters.map fun (entry : String × Option Use) =>
            if entry.1 == name then (name, some use) else entry }
  | some (some known) =>
    if known != use then noteHere s!"illegal reference to local {kind known} {name}"
  | none =>
    match s.uses.lookup name with
    | none => set { s with uses := (name, use) :: s.uses }
    | some known =>
      if known != use then noteHere s!"illegal reference to {kind known} {name}"

/-- A name in the place of the token. -/
def readName : Parse String := do
  match (← get).token with
  | .name name =>
    next
    return name
  | _ => unexpected

/-! ## Expressions -/

/-- What reads an expression. A sign for "greater" is not part of it if it leads the output elsewhere. -/
abbrev ExprParse := (plain : Bool) → Parse Expr

/-- Whether an expression stands for something that can be set. -/
def Expr.isTarget : Expr → Bool
  | named _ | element _ _ | field _ => true
  | _ => false

/-- The operation of a sign that sets a variable, none if it only sets it. -/
def settingSign? (mark : String) : Option (Option Operation) :=
  match mark with
  | "=" => some none
  | "+=" => some (some .add)
  | "-=" => some (some .subtract)
  | "*=" => some (some .multiply)
  | "/=" => some (some .divide)
  | "%=" => some (some .modulo)
  | "^=" => some (some .power)
  | _ => none

/-- Expressions with commas between them. -/
def listOf (whole : ExprParse) : (fuel : Nat) → (plain : Bool) → Parse (List Expr)
  | 0, _ => return []
  | fuel + 1, plain => do
    let first ← whole plain
    if ← accept "," then
      return first :: (← listOf whole fuel plain)
    return [first]

/-- Expressions up to a closing sign, which may be none. -/
def argumentsTo (whole : ExprParse) (closing : String) : Parse (List Expr) := do
  if ← accept closing then return []
  let found ← listOf whole (← get).bound false
  expect closing
  return found

/-- What a name stands for: a variable or an element of a table. -/
def nameTarget (whole : ExprParse) (name : String) : Parse Expr := do
  if ← accept "[" then
    useAs .table name
    if ← isMark "]" then unexpected
    let keys ← argumentsTo whole "]"
    for key in keys do
      match key with
      | .named key => useAs .scalar key
      | _ => pure ()
    return .element name keys
  else return .named name

/-- Keep in mind that a variable is used. -/
def useVariable (e : Expr) : Parse Unit := do
  match e with
  | .named name => useAs .scalar name
  | _ => return ()

/-- Something that can be set, without signs behind it. `operand` reads what follows a dollar sign. -/
def target (whole : ExprParse) (operand : Parse Expr) : Parse Expr := do
  match (← get).token with
  | .name name =>
    next
    let found ← nameTarget whole name
    useVariable found
    return found
  | .mark "$" =>
    next
    return .field (← operand)
  | _ => unexpected

/-- Whether something that can be set starts with the token. -/
def startsTarget : Parse Bool := do
  match (← get).token with
  | .name _ => return true
  | .mark "$" => return true
  | _ => return false

/-- How many arguments a function takes: at least and at most. -/
def arity (function : Known) : Nat × Nat :=
  match function with
  | .length => (0, 1)
  | .substr => (2, 3)
  | .index | .atan2 | .fit => (2, 2)
  | .split | .sub | .gsub => (2, 3)
  | .sprintf => (1, 1000)
  | .rand | .systime => (0, 0)
  | .srand | .fflush => (0, 1)
  | .sin | .cos | .exp | .log | .sqrt | .int | .toupper | .tolower | .system | .close => (1, 1)

/-- Keep in mind that arguments which are only names are variables, but for those that may be tables. -/
def useArguments (function : Known) (arguments : List Expr) : Parse Unit := do
  for (argument, n) in arguments.zipIdx do
    match function, n, argument with
    | .split, 1, .named _ | .length, _, .named _ => pure ()
    | _, _, argument => useVariable argument

/-- The arguments of a function that is known from the start, from behind the opening parenthesis on. -/
def knownArguments (whole : ExprParse) (operand : Parse Expr) (function : Known) : Parse (List Expr) := do
  match function with
  | .length =>
    if ← accept ")" then return []
    let argument ← whole false
    expect ")"
    return [argument]
  | .split =>
    let text ← whole false
    expect ","
    let table ← readName
    useAs .table table
    let separators ← if ← accept "," then pure [← whole false] else pure []
    expect ")"
    return text :: .named table :: separators
  | .sub | .gsub =>
    let regex ← whole false
    expect ","
    let filling ← whole false
    let targets ← if ← accept "," then pure [← target whole operand] else pure []
    expect ")"
    return regex :: filling :: targets
  | _ => argumentsTo whole ")"

/-- A function that is known from the start, with its arguments. -/
def knownCall (whole : ExprParse) (operand : Parse Expr) (function : Known) (name : String) :
    Parse Expr := do
  next
  if !(← isMark "(") then
    if function = .length then return .known .length []
    unexpected
  next
  let arguments ← knownArguments whole operand function
  let (least, most) := arity function
  if arguments.length < least || most < arguments.length then
    noteHere s!"wrong number of arguments in call to {name}"
  useArguments function arguments
  let arguments ← arguments.zipIdx.mapM fun (argument, n) => do
    match function, n, argument with
    | .sub, 0, .text text | .gsub, 0, .text text | .fit, 1, .text text =>
      return Expr.pattern (← readRegex text)
    | _, _, argument => return argument
  return .known function arguments

/-- What stands in parentheses: an expression, or several of them that are keys of a table. -/
def grouped (whole : ExprParse) : Parse Expr := do
  let found ← listOf whole (← get).bound false
  expect ")"
  match found with
  | [only] =>
    useVariable only
    return .group only
  | keys =>
    if !(← isWord "in") then unexpected
    next
    let name ← readName
    useAs .table name
    return .isIn keys name

/-- Read the next record or line of something. -/
def reading (whole : ExprParse) (operand : Parse Expr) : Parse Expr := do
  next
  let target? ← if ← startsTarget then pure (some (← target whole operand)) else pure none
  if ← accept "<" then return .readFile target? (← operand)
  return .read target?

def programCall (whole : ExprParse) (name : String) : Parse Expr := do
  let line := (← get).line
  next
  expect "("
  let arguments ← argumentsTo whole ")"
  modify fun s => { s with called := (name, line, arguments.length) :: s.called }
  match (← get).functions.lookup name with
  | some function =>
    if function.parameters.length < arguments.length then
      noteHere s!"too many arguments in call to {name}"
  | none => pure ()
  return .call name arguments

/-- Whether the token is the name of a function of the program that is called. -/
def isCall (name : String) : Parse Bool := do
  let s ← get
  if (s.functions.lookup name).isSome || s.called.any (·.1 == name) then return true
  return s.rest.head? = some '(' && (s.uses.lookup name).isNone && (s.parameters.lookup name).isNone

/-- An operand without signs behind it. -/
def bare (whole : ExprParse) : (fuel : Nat) → Parse Expr
  | 0 => unexpected
  | fuel + 1 => do
    let operand := bare whole fuel
    let s ← get
    match s.token with
    | .number x _ =>
      next
      return .number x
    | .text text =>
      next
      return .text text
    | .name name =>
      if ← isCall name then programCall whole name
      else
        next
        nameTarget whole name
    | .known function name => knownCall whole operand function name
    | .word "getline" => reading whole operand
    | .mark "(" =>
      next
      grouped whole
    | .mark "/" | .mark "/=" => return .pattern (← readSlashed)
    | .mark "$" =>
      next
      let number ← operand
      useVariable number
      return .field number
    | .mark "-" =>
      next
      return .negate (← operand)
    | .mark "+" =>
      next
      return .plus (← operand)
    | .mark "!" =>
      next
      return .not (← operand)
    | .mark "++" | .mark "--" =>
      let up ← isMark "++"
      next
      return .step up false (← target whole operand)
    | _ => unexpected

/-- An operand with the sign behind it that changes or sets it. -/
def operand (whole : ExprParse) (plain : Bool) : Parse Expr := do
  let found ← bare whole (← get).bound
  if !found.isTarget then return found
  match (← get).token with
  | .mark "++" =>
    next
    useVariable found
    return .step true true found
  | .mark "--" =>
    next
    useVariable found
    return .step false true found
  | .mark mark =>
    match settingSign? mark with
    | some operation =>
      next
      useVariable found
      let value ← whole plain
      useVariable value
      return .assign operation found value
    | none => return found
  | _ => return found

/-- An operand with the power that it is raised to and the signs in front of it. -/
def signed (whole : ExprParse) (plain : Bool) : (fuel : Nat) → Parse Expr
  | 0 => unexpected
  | fuel + 1 => do
    match (← get).token with
    | .mark "!" =>
      next
      let inner ← signed whole plain fuel
      useVariable inner
      return .not inner
    | .mark "-" =>
      next
      let inner ← signed whole plain fuel
      useVariable inner
      return .negate inner
    | .mark "+" =>
      next
      let inner ← signed whole plain fuel
      useVariable inner
      return .plus inner
    | _ =>
      let base ← operand whole plain
      if ← accept "^" then
        useVariable base
        let exponent ← signed whole plain fuel
        useVariable exponent
        return .calculate .power base exponent
      return base

/-- An operand whose output may be read as the output of a command. -/
def piped (whole : ExprParse) (plain : Bool) : Parse Expr := do
  let first ← signed whole plain (← get).bound
  let rec go : (fuel : Nat) → Expr → Parse Expr
    | 0, command => return command
    | fuel + 1, command => do
      let found? ← tryTo do
        if ← accept "|" then
          if ← isWord "getline" then
            next
            return some ()
        return none
      match found? with
      | none => return command
      | some () =>
        useVariable command
        let target? ← if ← startsTarget then
            pure (some (← target whole (bare whole (← get).bound)))
          else pure none
        go fuel (.readCommand target? command)
  go (← get).bound first

/-- Operands with signs of one level between them. -/
def levelOf (signs : List (String × (Expr → Expr → Expr))) (inner : Parse Expr) : Parse Expr := do
  let rec go : (fuel : Nat) → Expr → Parse Expr
    | 0, left => return left
    | fuel + 1, left => do
      match (← get).token with
      | .mark mark =>
        match signs.lookup mark with
        | some combine =>
          next
          useVariable left
          let right ← inner
          useVariable right
          go fuel (combine left right)
        | none => return left
      | _ => return left
  go (← get).bound (← inner)

def product (whole : ExprParse) (plain : Bool) : Parse Expr :=
  levelOf [("*", .calculate .multiply), ("/", .calculate .divide), ("%", .calculate .modulo)]
    (piped whole plain)

def sum (whole : ExprParse) (plain : Bool) : Parse Expr :=
  levelOf [("+", .calculate .add), ("-", .calculate .subtract)] (product whole plain)

/-- Whether an operand that is joined to another one starts with the token. -/
def startsOperand : Parse Bool := do
  match (← get).token with
  | .number _ _ | .text _ | .name _ | .known _ _ => return true
  | .mark mark => return ["$", "!", "(", "++", "--", "-", "+"].contains mark
  | .word word => return word == "getline"
  | _ => return false

def joined (whole : ExprParse) (plain : Bool) : Parse Expr := do
  let rec go : (fuel : Nat) → Expr → Parse Expr
    | 0, left => return left
    | fuel + 1, left => do
      if ← startsOperand then
        useVariable left
        let right ← sum whole plain
        useVariable right
        go fuel (.join left right)
      else return left
  go (← get).bound (← sum whole plain)

def comparison (whole : ExprParse) (plain : Bool) : Parse Expr :=
  let signs := [("<", Expr.compare .less), ("<=", Expr.compare .atMost), ("==", Expr.compare .equal),
    ("!=", Expr.compare .different), (">=", Expr.compare .atLeast)]
  levelOf (if plain then signs else (">", Expr.compare .greater) :: signs) (joined whole plain)

/-- Whether texts fit regular expressions. -/
def fitting (whole : ExprParse) (plain : Bool) : Parse Expr := do
  let rec go : (fuel : Nat) → Expr → Parse Expr
    | 0, left => return left
    | fuel + 1, left => do
      let negated ← isMark "!~"
      if negated || (← isMark "~") then
        next
        useVariable left
        let right ← comparison whole plain
        useVariable right
        let right ← match right with
          | .text text => do pure (Expr.pattern (← readRegex text))
          | right => pure right
        go fuel (.fits negated left right)
      else return left
  go (← get).bound (← comparison whole plain)

def membership (whole : ExprParse) (plain : Bool) : Parse Expr := do
  let rec go : (fuel : Nat) → Expr → Parse Expr
    | 0, left => return left
    | fuel + 1, left => do
      if ← isWord "in" then
        next
        useVariable left
        let name ← readName
        useAs .table name
        go fuel (.isIn [left] name)
      else return left
  go (← get).bound (← fitting whole plain)

/-- Conditions joined by signs. -/
def condition (whole : ExprParse) (plain : Bool) : Parse Expr :=
  levelOf [("||", .either)] (levelOf [("&&", .both)] (membership whole plain))

/-- A whole expression. The fuel bounds how deep expressions stand inside each other. -/
def expression : (fuel : Nat) → ExprParse
  | 0, _ => unexpected
  | fuel + 1, plain => do
    let whole := expression fuel
    let test ← condition whole plain
    if ← accept "?" then
      useVariable test
      let whenTrue ← whole plain
      expect ":"
      let whenFalse ← whole plain
      useVariable whenTrue
      useVariable whenFalse
      return .choice test whenTrue whenFalse
    return test

/-- An expression that is used for its value. -/
def valueOf (plain : Bool := false) : Parse Expr := do
  let e ← expression (← get).bound plain
  useVariable e
  return e

/-- An expression in parentheses, with the line ends behind it. -/
def testOf : Parse Expr := do
  expect "("
  let test ← valueOf
  expect ")"
  skipLines
  return test

/-! ## Statements -/

def atStatementEnd : Parse Bool := do
  match (← get).token with
  | .newline | .finish => return true
  | .mark mark => return mark == ";" || mark == "\x7d"
  | _ => return false

def endStatement : Parse Unit := do
  match (← get).token with
  | .newline | .mark ";" => next
  | .mark "\x7d" => modify fun s => { s with afterEnd := true }
  | _ => unexpected

/-- Where printed values go, if that is told. -/
def outlet : Parse (Option (Outlet × Expr)) := do
  let kind? : Option Outlet ← match (← get).token with
    | .mark ">" => pure (some .file)
    | .mark ">>" => pure (some .append)
    | .mark "|" => pure (some .command)
    | _ => pure none
  match kind? with
  | none => return none
  | some kind =>
    next
    return some (kind, ← valueOf)

/-- Values in parentheses, if there is nothing behind them but where they go. -/
def valuesInParentheses : Parse (Option (List Expr)) := do
  expect "("
  if ← accept ")" then return some []
  let found ← listOf (expression (← get).bound) (← get).bound false
  expect ")"
  let s ← get
  if ← atStatementEnd then return some found
  match s.token with
  | .mark mark => return if [">", ">>", "|"].contains mark then some found else none
  | _ => return none

def printedValues : Parse (List Expr) := do
  if ← atStatementEnd then return []
  match (← get).token with
  | .mark ">" | .mark ">>" | .mark "|" => return []
  | _ => pure ()
  let inParentheses? ← if ← isMark "(" then tryTo valuesInParentheses else pure none
  let values ← match inParentheses? with
    | some values => pure values
    | none => listOf (expression (← get).bound) (← get).bound true
  for value in values do useVariable value
  return values

/-- The name and the table of a loop over keys, behind the opening parenthesis. -/
def keysHead : Parse (Option (String × String)) := do
  match (← get).token with
  | .name name =>
    next
    if ← isWord "in" then
      next
      match (← get).token with
      | .name table =>
        next
        if ← accept ")" then return some (name, table)
        return none
      | _ => return none
    return none
  | _ => return none

/-- A statement without a statement inside. -/
def simple : Parse Statement := do
  match (← get).token with
  | .word "print" =>
    next
    let values ← printedValues
    return .print values (← outlet)
  | .word "printf" =>
    next
    let values ← printedValues
    if values.isEmpty then noteHere "no arguments in call to printf"
    return .printf values (← outlet)
  | .word "delete" =>
    next
    let name ← readName
    useAs .table name
    if ← accept "[" then
      return .delete name (some (← argumentsTo (expression (← get).bound) "]"))
    return .delete name none
  | _ => return .expression (← valueOf)

/-- Read the body of a loop. -/
def inLoop {α : Type} (parse : Parse α) : Parse α := do
  modify fun s => { s with loops := s.loops + 1 }
  let a ← parse
  modify fun s => { s with loops := s.loops - 1 }
  return a

/-- Tell that a statement stands outside of all loops. That is told once. -/
def outsideLoop (word : String) : Parse Unit := do
  noteHere (word ++ " statement outside of loop")
  modify fun s => { s with loops := 1 }

/-- A statement that goes on elsewhere, if it is one. -/
def leaving? : Parse (Option Statement) := do
  let s ← get
  match s.token with
  | .word "break" =>
    if s.loops = 0 then outsideLoop "break"
    next
    return some .breakLoop
  | .word "continue" =>
    if s.loops = 0 then outsideLoop "continue"
    next
    return some .continueLoop
  | .word "next" =>
    if s.spot != .rule then noteHere "improper use of next"
    next
    return some .nextRecord
  | .word "nextfile" =>
    if s.spot != .rule then noteHere "improper use of nextfile"
    next
    return some .nextFile
  | .word "exit" =>
    next
    if ← atStatementEnd then return some (.exit none)
    return some (.exit (some (← valueOf)))
  | .word "return" =>
    if s.spot != .function then noteHere "return outside function body"
    next
    if ← atStatementEnd then return some (.returning none)
    return some (.returning (some (← valueOf)))
  | _ => return none

/-- Statements up to a closing brace, from behind the opening one on. -/
def statementsWith (statement : Parse Statement) : (fuel : Nat) → Parse (List Statement)
  | 0 => return []
  | fuel + 1 => do
    if ← isMark "\x7d" then return []
    if ← accept ";" then return ← statementsWith statement fuel
    let first ← statement
    return first :: (← statementsWith statement fuel)

/-- The test behind the body of a loop, and its end. If it makes no sense, the body is missed again. -/
def testBehind (body : Statement) : (fuel : Nat) → Parse Statement
  | 0 => unexpected
  | fuel + 1 =>
    let test : Parse Statement := do
      if !(← isWord "while") then unexpected
      next
      expect "("
      let test ← valueOf
      expect ")"
      endStatement
      return .doWhile body test
    orElse test do
      skipStatement
      testBehind body fuel

/-- A statement with its end. `inner` reads statements inside it. -/
def statementOf (inner : Parse Statement) : Parse Statement := do
  let s ← get
  match s.token with
  | .newline | .mark ";" =>
    next
    return .block []
  | .mark "\x7d" =>
    if s.afterEnd then unexpected
    endStatement
    return .block []
  | .mark "\x7b" =>
    next
    let found ← statementsWith inner s.bound
    expect "\x7d"
    return .block found
  | .word "if" =>
    next
    let test ← testOf
    let whenTrue ← inner
    if ← isWord "else" then
      next
      return .choose test whenTrue (some (← inner))
    return .choose test whenTrue none
  | .word "while" =>
    next
    let test ← testOf
    return .whileTrue test (← inLoop inner)
  | .word "do" =>
    next
    let body ← inLoop inner
    testBehind body s.bound
  | .word "for" =>
    next
    expect "("
    match ← tryTo keysHead with
    | some (name, table) =>
      useAs .scalar name
      useAs .table table
      skipLines
      return .forKeys name table (← inLoop inner)
    | none =>
      let start? ← if ← isMark ";" then pure none else pure (some (← simple))
      expect ";"
      let test? ← if ← isMark ";" then pure none else pure (some (← valueOf))
      expect ";"
      let next? ← if ← isMark ")" then pure none else pure (some (← simple))
      expect ")"
      skipLines
      return .loop start? test? next? (← inLoop inner)
  | _ =>
    let found ← match ← leaving? with
      | some found => pure found
      | none => simple
    endStatement
    return found

/-- A statement with its end. One that makes no sense is passed. -/
def statement : (fuel : Nat) → Parse Statement
  | 0 => unexpected
  | fuel + 1 =>
    orElse (statementOf (statement fuel)) do
      skipStatement
      return .block []

def block : Parse (List Statement) := do
  expect "\x7b"
  let found ← statementsWith (statement (← get).bound) (← get).bound
  expect "\x7d"
  return found

/-! ## Programs -/

/-- The parameters of a function, from behind the opening parenthesis on. -/
def parametersOf (function : String) : (fuel : Nat) → List String → Parse (List String)
  | 0, found => return found
  | fuel + 1, found => do
    if ← accept ")" then return found
    if (← get).token matches .name _ then
      let name ← readName
      if found.contains name then noteHere s!"{name} is duplicated in argument list"
      if name == function then
        noteHere "function parameter cannot be the function"
        fault .here ("syntax error at or near " ++ name)
      if ← accept "," then parametersOf function fuel (found ++ [name])
      else
        expect ")"
        return found ++ [name]
    else unexpected

/-- A function, from behind its first word on. -/
def functionOf : Parse (String × Function) := do
  let name ← readName
  let s ← get
  if (s.functions.lookup name).isSome then noteHere s!"redefinition of {name}"
  match s.uses.lookup name with
  | some .scalar => noteHere s!"illegal reference to variable {name}"
  | some .table => noteHere s!"illegal reference to array {name}"
  | none => pure ()
  expect "("
  let parameters ← parametersOf name (← get).bound []
  modify fun s =>
    { s with
      functions := (name, ⟨parameters, []⟩) :: s.functions
      parameters := parameters.map fun parameter => (parameter, none)
      spot := .function }
  skipLines
  let body ← block
  modify fun s => { s with parameters := [] }
  return (name, ⟨parameters, body⟩)

def ruleOf : Parse Rule := do
  let inSpot (spot : Spot) : Parse Unit := modify fun s => { s with spot }
  if ← isWord "BEGIN" then
    next
    inSpot .border
    return ⟨.start, some (← block)⟩
  if ← isWord "END" then
    next
    inSpot .border
    return ⟨.finish, some (← block)⟩
  inSpot .rule
  if ← isMark "\x7b" then return ⟨.always, some (← block)⟩
  let first ← valueOf
  let pattern ← if ← accept "," then
      pure (Pattern.range first (← valueOf))
    else pure (Pattern.when first)
  if ← isMark "\x7b" then return ⟨pattern, some (← block)⟩
  match (← get).token with
  | .newline | .mark ";" =>
    next
    return ⟨pattern, none⟩
  | .finish => return ⟨pattern, none⟩
  | _ => unexpected

/-- A function or a rule, added to a program. -/
def itemOf (program : Program) : Parse Program := do
  let isFunction := match (← get).token with
    | .word word => word == "function" || word == "func"
    | _ => false
  if isFunction then
    next
    return { program with functions := program.functions ++ [← functionOf] }
  return { program with rules := program.rules ++ [← ruleOf] }

/-- The rules and functions of a program. What makes no sense is passed up to the end of the next block. -/
def itemsOf : (fuel : Nat) → Program → Parse Program
  | 0, program => return program
  | fuel + 1, program => do
    match (← get).token with
    | .finish => return program
    | _ =>
      let program ← orElse (itemOf program) do
        skipToBrace
        discard block
        return program
      itemsOf fuel program

/-- Tell which functions are called but not there, or called with too many arguments. -/
def checkCalls : Parse Unit := do
  let s ← get
  let mut place := s.nextLine
  for (name, line, arguments) in s.called do
    match s.functions.lookup name with
    | none => noteAt place s!"function {name} never defined"
    | some function =>
      if function.parameters.length < arguments then
        place := line
        noteAt line s!"too many arguments in call to {name}"

/-- Read a program that stands in files with names, or in a word of the command line; gives the mistakes in
    it if there are any. `known` are variables that are set from the start. -/
def Program.read (files : List (Option String × Octets)) (known : List String) :
    Except (List String) Program :=
  let text := files.flatMap fun file => file.2 ++ ['\n']
  let parse : Parse Program := do
    next
    let program ← itemsOf (text.length + 2) {}
    if (← get).mistakes.isEmpty then checkCalls
    return program
  let (lines, rest) := skipGap (text.length + 1) 0 text
  let starts := files.foldl (fun (starts, lines) (name?, text) =>
    ((lines, name?) :: starts, lines + text.count '\n' + 1)) (([], 0) : List (Nat × Option String) × Nat)
  let uses := (builtinVariables ++ known).map (fun name => (name, Use.scalar)) ++
    builtinTables.map (fun name => (name, Use.table))
  match parse.run { rest, nextLine := 1 + lines, bound := text.length + 2, uses, files := starts.1 } with
  | (.ok program, s) => if s.mistakes.isEmpty then .ok program else .error s.mistakes.reverse
  | (.error _, s) => .error s.mistakes.reverse

end AsmLayout.Host.Awk
