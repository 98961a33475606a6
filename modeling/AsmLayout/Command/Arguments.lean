/-! # Arguments of a command

An argument that starts with a hyphen is an option, unless it is a lone hyphen or stands behind two
hyphens. Every option may be given once. An option with a value takes it behind an equals sign, or for a
letter directly, or else from the next argument.
-/

namespace AsmLayout.Command

structure Options where
  /-- Long options without a value. -/
  flags : List String := []
  /-- Long options with a value. -/
  valued : List String := []
  /-- Letters that stand for long options with a value. -/
  letters : List (Char × String) := []
  /-- The first positional argument takes all others with it, and an unknown option counts as
      positional. -/
  trailing : Bool := false
  deriving Repr, DecidableEq

structure Parsed where
  flags : List String := []
  values : List (String × String) := []
  positional : List String := []
  deriving Repr, DecidableEq

/-- Why arguments lead to no command. -/
inductive UsageError where
  /-- Help was asked for. -/
  | help
  | unknownOption (argument : String)
  | repeatedOption (name : String)
  | missingValue (name : String)
  | unexpectedValue (name : String)
  | invalidValue (name value : String)
  | wrongPositionals
  | unknownCommand
  deriving Repr, DecidableEq

/-- The exit code: asking for help is no mistake. -/
def UsageError.exitCode : UsageError → Nat
  | help => 0
  | _ => 2

namespace Parsed

def hasFlag (parsed : Parsed) (name : String) : Bool :=
  parsed.flags.contains name

def value? (parsed : Parsed) (name : String) : Option String :=
  parsed.values.lookup name

def addFlag (parsed : Parsed) (name : String) : Except UsageError Parsed :=
  if parsed.hasFlag name then .error (.repeatedOption name)
  else .ok { parsed with flags := parsed.flags ++ [name] }

/-- Give an option with its value. -/
def addValue (parsed : Parsed) (name value : String) : Except UsageError Parsed :=
  if (parsed.value? name).isSome then .error (.repeatedOption name)
  else .ok { parsed with values := parsed.values ++ [(name, value)] }

/-- Give positional arguments. -/
def addPositional (parsed : Parsed) (arguments : List String) : Parsed :=
  { parsed with positional := parsed.positional ++ arguments }

end Parsed

inductive Shape where
  /-- Two hyphens: all that follows is positional. -/
  | separator
  | long (name : String) (value : Option String)
  | short (letter : Char) (rest : List Char)
  | positional
  deriving Repr, DecidableEq

def shape (argument : String) : Shape :=
  match argument.toList with
  | ['-', '-'] => .separator
  | '-' :: '-' :: rest =>
    let name := String.ofList (rest.takeWhile (· != '='))
    match rest.dropWhile (· != '=') with
    | _ :: value => .long name (some (String.ofList value))
    | [] => .long name none
  | '-' :: letter :: rest => .short letter rest
  | _ => .positional

inductive Meaning where
  | separator
  | flag (name : String)
  /-- An option, with the value if it stands in the same argument. -/
  | option (name : String) (value : Option String)
  | positional
  | refused (cause : UsageError)
  deriving Repr, DecidableEq

/-- The value of a letter from the rest of its argument; one equals sign in front is dropped. -/
def attachedValue? : List Char → Option String
  | [] => none
  | '=' :: value => some (String.ofList value)
  | value => some (String.ofList value)

def meaning (options : Options) (argument : String) : Meaning :=
  let unknown : Meaning :=
    if options.trailing then .positional else .refused (.unknownOption argument)
  match shape argument with
  | .separator => .separator
  | .positional => .positional
  | .long "help" none => .refused .help
  | .long "help" (some _) => .refused (.unexpectedValue "help")
  | .long name value =>
    if options.valued.contains name then .option name value
    else if options.flags.contains name then
      if value.isSome then .refused (.unexpectedValue name) else .flag name
    else unknown
  | .short letter rest =>
    match options.letters.lookup letter with
    | some name => .option name (attachedValue? rest)
    | none =>
      if letter = 'h' && (!options.trailing || rest.all (· == 'h')) then .refused .help
      else unknown

def parseArguments (options : Options) : (parsed : Parsed) → List String → Except UsageError Parsed
  | parsed, [] => .ok parsed
  | parsed, argument :: rest =>
    match meaning options argument with
    | .separator => .ok (parsed.addPositional rest)
    | .positional =>
      if options.trailing then .ok (parsed.addPositional (argument :: rest))
      else parseArguments options (parsed.addPositional [argument]) rest
    | .flag name => do parseArguments options (← parsed.addFlag name) rest
    | .option name (some value) => do
      parseArguments options (← parsed.addValue name value) rest
    | .option name none =>
      match rest with
      | [] => .error (.missingValue name)
      | value :: rest =>
        match meaning options value with
        | .positional => do parseArguments options (← parsed.addValue name value) rest
        | .refused .help => .error .help
        | _ => .error (.missingValue name)
    | .refused cause => .error cause

/-- Read a natural number of 64 bits, with or without a plus sign. -/
def natural64? (text : String) : Option Nat :=
  let digits := match text.toList with
    | '+' :: digits => digits
    | digits => digits
  if digits.isEmpty || !digits.all (·.isDigit) then none
  else
    let n := digits.foldl (fun n d => n * 10 + (d.toNat - '0'.toNat)) 0
    if n < 0x10000000000000000 then some n else none

/-- The number an option is given, zero without it. -/
def numberOption (parsed : Parsed) (name : String) : Except UsageError Nat :=
  match parsed.value? name with
  | none => .ok 0
  | some text => match natural64? text with
    | some n => .ok n
    | none => .error (.invalidValue name text)

def nonemptyPath (name path : String) : Except UsageError String :=
  if path = "" then .error (.invalidValue name path) else .ok path

def pathOption (parsed : Parsed) (name : String) : Except UsageError (Option String) :=
  match parsed.value? name with
  | none => .ok none
  | some path => (nonemptyPath name path).map some

end AsmLayout.Command
