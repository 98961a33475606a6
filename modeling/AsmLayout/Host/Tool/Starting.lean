import AsmLayout.Host.Tool
import AsmLayout.Host.Shell.Search

/-! # Tools that start other programs -/

namespace AsmLayout.Host

open Text (Octets)

/-- Run a program by a name in the place of a tool. A file that is no program is taken for a script. -/
def launchByName (launch : Launcher) (words : List Octets) : Act (Except IoError Ending) := do
  let searched := (← environment? "PATH").getD (ascii "/bin:/usr/bin")
  match ← findProgram searched (words.headD []) with
  | .error cause => return .error cause
  | .ok path =>
    match ← launch path words with
    | .error .invalidFormat => launch (ascii "/bin/sh") (ascii "/bin/sh" :: path :: words.drop 1)
    | result => return result

/-- The status of a tool whose program cannot be run. -/
def startingStatus (cause : IoError) : Nat :=
  if cause = .notFound then 127 else 126

/-- Run a program by a name in the place of a tool, or tell why that cannot be done. -/
def replaceBy (launch : Launcher) (name : Octets) (words : List Octets) : Act Ending := do
  match ← launchByName launch words with
  | .ok ending => return ending
  | .error cause =>
    complainAs name (inMarks (words.headD []) ++ ascii (": " ++ cause.wording))
    return .exited (startingStatus cause)

/-- Put a variable into an environment or take it away. -/
def withVariable (name : Octets) (value : Option Octets) (environment : List (Octets × Octets)) :
    List (Octets × Octets) :=
  let others := environment.filter fun entry => entry.1 != name
  match value with
  | some value =>
    if (environment.lookup name).isSome then
      environment.map fun entry => if entry.1 == name then (name, value) else entry
    else environment ++ [(name, value)]
  | none => others

/-- Change the environment as the words of a call say; gives the words behind those. -/
def setFromWords : List Octets → Act (List Octets)
  | [] => return []
  | word :: words => do
    if word.contains '=' then
      let name := word.takeWhile (· != '=')
      modify fun p =>
        { p with environment :=
            withVariable name (some (word.drop (name.length + 1))) p.environment }
      setFromWords words
    else return word :: words

/-- Run a program in another environment, or show the environment. -/
def runInEnvironment : Tool := fun launch name words => do
  let table : OptionTable :=
    { flags := "i0v", valued := "uC", mixed := false
      long := [("ignore-environment", 'i'), ("null", '0'), ("unset", 'u'), ("chdir", 'C'),
        ("debug", 'v')] }
  match splitWords table (words.length + 1) words with
  | .error message =>
    complainOfWords name message
    return .exited 125
  | .ok (options, operands) =>
    let call : Call := { name, options, operands }
    let operands := match operands with
      | ['-'] :: others => others
      | operands => operands
    if call.has 'i' || operands.length != call.operands.length then
      modify fun p => { p with environment := [] }
    for (letter, value) in options do
      if letter = 'u' then
        if value.isEmpty || value.contains '=' then
          complainAs name (ascii "cannot unset " ++ inMarks value ++ ascii ": Invalid argument")
          return .exited 125
        modify fun p => { p with environment := withVariable value none p.environment }
    let operands ← setFromWords operands
    match call.value? 'C' with
    | none => pure ()
    | some path =>
      if operands.isEmpty then
        complainOfWords name (ascii "must specify command with --chdir (-C)")
        return .exited 125
      match ← nodeAt path with
      | .ok id =>
        if !(← files).isDirectory id then
          complainAs name (ascii "cannot change directory to " ++ inQuotes path ++
            ascii ": Not a directory")
          return .exited 125
        modify fun p => { p with working := id }
      | .error cause =>
        complainAs name (ascii "cannot change directory to " ++ inQuotes path ++
          ascii (": " ++ cause.wording))
        return .exited 125
    if operands.isEmpty then
      let ending := if call.has '0' then '\x00' else '\n'
      print ((← get).environment.flatMap fun (name, value) => name ++ '=' :: value ++ [ending])
      return .exited 0
    else if call.has '0' then
      complainOfWords name (ascii "cannot specify --null (-0) with command")
      return .exited 125
    else replaceBy launch name operands

def showEnvironment : Tool := fun _ =>
  withTable { flags := "0", mixed := false, long := [("null", '0')] } 2 fun call => do
    let ending := if call.has '0' then '\x00' else '\n'
    let environment := (← get).environment
    if call.operands.isEmpty then
      print (environment.flatMap fun (name, value) => name ++ '=' :: value ++ [ending])
      return 0
    let mut good := true
    for name in call.operands do
      match environment.lookup name with
      | some value => print (value ++ [ending])
      | none => good := false
    return if good then 0 else 1

/-- Run a program with other options in front that change nothing here. -/
def passOn (valued : String) (counted : Bool) : Tool := fun launch name words => do
  match splitWords { valued, flags := "v", mixed := false } (words.length + 1) words with
  | .error message =>
    complainOfWords name message
    return .exited 125
  | .ok (_, operands) =>
    let operands := if counted then operands.drop 1 else operands
    if operands.isEmpty then
      complainOfWords name (ascii "missing operand")
      return .exited 125
    else replaceBy launch name operands

/-- The words of a text: blanks part them unless they are quoted. Gives the sign that is not closed if
    there is one. -/
def wordsOfText : (fuel : Nat) → (soFar : Option Octets) → Octets → Except Char (List Octets)
  | 0, _, _ => .ok []
  | _, soFar, [] => .ok soFar.toList
  | fuel + 1, soFar, c :: rest =>
    if c == ' ' || c == '\t' || c == '\n' then do
      return soFar.toList ++ (← wordsOfText fuel none rest)
    else if c == '\\' then
      match rest with
      | c :: rest => wordsOfText fuel (some (soFar.getD [] ++ [c])) rest
      | [] => .ok soFar.toList
    else if c == '\'' || c == '"' then
      let quoted := rest.takeWhile fun d => d != c && d != '\n'
      match rest.drop quoted.length with
      | d :: rest =>
        if d == c then wordsOfText fuel (some (soFar.getD [] ++ quoted)) rest else .error c
      | [] => .error c
    else wordsOfText fuel (some (soFar.getD [] ++ [c])) rest

/-- A text with another one in the place of a mark. -/
def fillIn (mark filling : Octets) : (fuel : Nat) → Octets → Octets
  | 0, text => text
  | _, [] => []
  | fuel + 1, c :: rest =>
    if !mark.isEmpty && mark.isPrefixOf (c :: rest) then
      filling ++ fillIn mark filling fuel ((c :: rest).drop mark.length)
    else c :: fillIn mark filling fuel rest

/-- Run command lines one after the other; gives the status of them all. -/
def runAll (launch : Launcher) (name : Octets) (shown : Bool) :
    (status : Nat) → List (List Octets) → Act Nat
  | status, [] => return status
  | status, words :: others => do
    if shown then complain (Text.joinWith ' ' words)
    match ← inChild (launchByName launch words) with
    | .ok (.exited 0) => runAll launch name shown status others
    | .ok (.exited 255) =>
      complainAs name (words.headD [] ++ ascii ": exited with status 255; aborting")
      return 124
    | .ok (.exited _) => runAll launch name shown 123 others
    | .ok (.killed signal) =>
      complainAs name (words.headD [] ++ ascii ": terminated by signal " ++ Text.decimal signal)
      return 125
    | .error cause =>
      complainAs name (words.headD [] ++ ascii (": " ++ cause.wording))
      return startingStatus cause

def runWithWords : Tool := fun launch =>
  withTable
    { flags := "0rtx", valued := "nIdLaPs", mixed := false
      long := [("null", '0'), ("no-run-if-empty", 'r'), ("verbose", 't'), ("max-args", 'n'),
        ("delimiter", 'd'), ("max-lines", 'L'), ("arg-file", 'a')] } 1
    fun call => do
      let mark? := call.value? 'I'
      let input ← match call.value? 'a' with
        | some path => readFile path
        | none => readAll 0
      match input with
      | .error cause =>
        complainAs call.name (ascii "Cannot open input file " ++ inMarks ((call.value? 'a').getD []) ++
          ascii (": " ++ cause.wording))
        return 1
      | .ok text =>
        let separator? : Option Char :=
          if call.has '0' then some '\x00'
          else match call.value? 'd' with
            | some ['\\', 'n'] => some '\n'
            | some ['\\', 't'] => some '\t'
            | some ['\\', '0'] => some '\x00'
            | some (c :: _) => some c
            | _ => none
        let found : Except Char (List Octets) := match separator? with
          | some c =>
            let parts := Text.splitAtChar c text
            .ok (if parts.getLast? = some [] then parts.dropLast else parts)
          | none =>
            if mark?.isSome then
              (Text.splitAtChar '\n' text).foldlM (fun lines line => do
                let line := line.dropWhile fun c => c == ' ' || c == '\t'
                let quoted ← wordsOfText (line.length + 1) none line
                return if line.isEmpty then lines else lines ++ [Text.joinWith ' ' quoted]) []
            else wordsOfText (text.length + 1) none text
        match found with
        | .error quote =>
          complainAs call.name (ascii ("unmatched " ++ (if quote = '"' then "double" else "single") ++
            " quote; by default quotes are special to xargs unless you use the -0 option"))
          return 1
        | .ok words =>
          let command := if call.operands.isEmpty then [ascii "echo"] else call.operands
          let shown := call.has 't'
          match mark? with
          | some mark =>
            runAll launch call.name shown 0 (words.map fun word =>
              command.map fun part => fillIn mark word (part.length + 1) part)
          | none =>
            let size := ((call.value? 'n').orElse fun _ => call.value? 'L').bind fun text =>
              (String.ofList text).toNat?
            let groups := match size with
              | some size => groupsOf (max size 1) words.length words
              | none => [words]
            let groups := if words.isEmpty then (if call.has 'r' then [] else [[]]) else groups
            runAll launch call.name shown 0 (groups.map fun group => command ++ group)

def showPlaces : Tool := fun _ =>
  withTable { flags := "as", mixed := false } 2 fun call => do
    let searched := (← environment? "PATH").getD []
    let mut good := true
    for name in call.operands do
      if name.contains '/' then
        match ← checkProgram name with
        | .ok () => print (name ++ ['\n'])
        | .error _ => good := false
      else
        match ← locate searched name with
        | .ok path => print (path ++ ['\n'])
        | .error _ => good := false
    return if good && !call.operands.isEmpty then 0 else 1

end AsmLayout.Host
