import AsmLayout.Host.Awk.Grammar
import AsmLayout.Host.Awk.Run

/-! # The tool that runs programs on records -/

namespace AsmLayout.Host

open Text (Octets)

namespace Awk

/-- What the words of a call ask for. -/
structure Wish where
  /-- Variables that are set from the start. -/
  settings : List (String × Octets) := []
  /-- The files with the program. -/
  files : List Octets := []
  /-- What is said about options that nobody knows. -/
  remarks : List Octets := []
  operands : List Octets := []

/-- What the words of a call come to. -/
inductive Called where
  | wish (wish : Wish)
  /-- Something is shown instead. -/
  | version
  | usage
  | mistake (message : Octets)

/-- What is said about the version. -/
def versionText : String :=
  "mawk 1.3.4 20240123\n"

/-- What is said about the words of a call. -/
def usageText : String :=
  "Usage: mawk [Options] [Program] [file ...]\n" ++
  "\n" ++
  "Program:\n" ++
  "    The -f option value is the name of a file containing program text.\n" ++
  "    If no -f option is given, a \"--\" ends option processing; the following\n" ++
  "    parameters are the program text.\n" ++
  "\n" ++
  "Options:\n" ++
  "    -f program-file  Program  text is read from file instead of from the\n" ++
  "                     command-line.  Multiple -f options are accepted.\n" ++
  "    -F value         sets the field separator, FS, to value.\n" ++
  "    -v var=value     assigns value to program variable var.\n" ++
  "    --               unambiguous end of options.\n" ++
  "\n" ++
  "    Implementation-specific options are prefixed with \"-W\".  They can be\n" ++
  "    abbreviated:\n" ++
  "\n" ++
  "    -W version       show version information and exit.\n" ++
  "    -W compat        pre-POSIX 2001.\n" ++
  "    -W dump          show assembler-like listing of program and exit.\n" ++
  "    -W help          show this message and exit.\n" ++
  "    -W interactive   set unbuffered output, line-buffered input.\n" ++
  "    -W exec file     use file as program as well as last option.\n" ++
  "    -W posix         stricter POSIX checking.\n" ++
  "    -W random=number set initial random seed.\n" ++
  "    -W sprintf=number adjust size of sprintf buffer.\n" ++
  "    -W usage         show this message and exit.\n"

def longOptions : List String :=
  ["version", "dump", "help", "interactive", "posix_space", "random", "repetitions", "sprintf",
   "traditional", "usage", "exec"]

/-- The long option that a word stands for, which may be cut short. -/
def longOption? (word : Octets) : Option String :=
  let name := String.ofList (word.takeWhile (· != '='))
  if name.isEmpty then none else longOptions.find? fun option => option.startsWith name

/-- Tell what the words of a call ask for. -/
def readWords : (fuel : Nat) → Wish → List Octets → Called
  | 0, wish, words => .wish { wish with operands := words }
  | _, wish, [] => .wish wish
  | fuel + 1, wish, word :: words =>
    let valued (letter : Char) (value : Octets) (go : Octets → List Octets → Called) : Called :=
      match value, words with
      | [], [] => .mistake (ascii "option -" ++ [letter] ++ ascii " lacks argument")
      | [], value :: words => go value words
      | value, words => go value words
    let long (option : String) (given : Octets) (words : List Octets) : Called :=
      match option with
      | "random" | "sprintf" =>
        let (number, words) : Octets × List Octets :=
          if given.contains '=' then ((given.dropWhile (· != '=')).drop 1, words)
          else (words.headD [], words.drop 1)
        if number.isEmpty || !number.all Char.isDigit then
          .mistake (ascii "invalid numeric option: \"" ++ number ++ ['"'])
        else readWords fuel wish words
      | "version" => .version
      | "help" | "usage" => .usage
      | "exec" =>
        match words with
        | [] => readWords fuel wish []
        | file :: words => .wish { wish with files := wish.files ++ [file], operands := words }
      | _ => readWords fuel wish words
    match word with
    | ['-', '-'] => .wish { wish with operands := words }
    | '-' :: '-' :: name =>
      match longOption? name with
      | some option => long option name words
      | none => .mistake (ascii "not an option: " ++ word)
    | '-' :: 'f' :: value =>
      valued 'f' value fun value words => readWords fuel { wish with files := wish.files ++ [value] } words
    | '-' :: 'F' :: value =>
      valued 'F' value fun value words =>
        let separator := unescapeText (value.length + 1) value
        readWords fuel { wish with settings := wish.settings ++ [("FS", separator)] } words
    | '-' :: 'v' :: value =>
      valued 'v' value fun value words =>
        match settingIn? value with
        | some setting => readWords fuel { wish with settings := wish.settings ++ [setting] } words
        | none => .mistake (ascii "improper assignment: -v " ++ value)
    | '-' :: 'W' :: value =>
      valued 'W' value fun value words =>
        match longOption? (value.takeWhile (· != ',')) with
        | some option => long option value words
        | none =>
          let remarks := if value.isEmpty then []
            else [ascii "vacuous option: -W \"" ++ value ++ ascii "\""]
          readWords fuel { wish with remarks := wish.remarks ++ remarks } words
    | '-' :: _ :: _ => .mistake (ascii "not an option: " ++ word)
    | word => .wish { wish with operands := word :: words }

/-- Read the files with a program, up to the first one that cannot be read. -/
def readFiles (paths : List Octets) : Run (List (Option String × Octets)) :=
  paths.mapM fun path => do
    match ← textOfFile path with
    | .ok text => return (some (String.ofList path), text)
    | .error cause => giveUp (ascii "cannot open \"" ++ path ++ ascii "\"" ++ causeIn cause)

/-- Read a program and run it; gives its status. -/
def runWish (wish : Wish) : Run Nat := do
  let name := (← get).name
  for (target, value) in wish.settings do
    match target, Pattern.read value with
    | "FS", .error cause =>
      if 1 < value.length then
        giveUp (ascii ("line 0: regular expression compile failed (" ++ cause.message ++ ")\n") ++ value)
    | _, _ => pure ()
    setFromArgument target value
  let files ← match wish.files, wish.operands with
    | [], text :: _ => pure [(none, text)]
    | files, _ => readFiles files
  match Program.read files (wish.settings.map (·.1)) with
  | .error mistakes =>
    for mistake in mistakes do onProcess (complainAs name (ascii mistake))
    return 2
  | .ok program =>
    modify fun m => { m with functions := program.functions }
    conclude program

end Awk

def runOnRecords : Tool := fun launch name words => do
  let base := (Text.splitAtChar '/' name).getLast?.getD name
  match Awk.readWords (words.length + 1) {} words with
  | .version =>
    print (ascii Awk.versionText)
    return .exited 0
  | .usage =>
    print (ascii Awk.usageText)
    return .exited 0
  | .mistake message =>
    complainAs base message
    return .exited 2
  | .wish wish =>
    for remark in wish.remarks do complainAs base remark
    if wish.files.isEmpty && (wish.operands.isEmpty || wish.operands.head? = some ['-']) then
      if wish.operands.isEmpty then discard (write 2 (ascii Awk.usageText))
      return .exited 0
    let process ← get
    let arguments := if wish.files.isEmpty then wish.operands.drop 1 else wish.operands
    let machine := Awk.startVariables (base :: arguments) process.environment
      { process, launch, name := base, functions := [], globals := {} }
    let (result, machine) := (Awk.runWish wish).run machine
    set machine.process
    match result with
    | .ok status => return .exited status
    | .error _ => return .exited 2

end AsmLayout.Host
