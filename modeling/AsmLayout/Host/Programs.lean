import AsmLayout.Host.Shell
import AsmLayout.Host.Tool.Awk
import AsmLayout.Host.Tool.Bytes
import AsmLayout.Host.Tool.Columns
import AsmLayout.Host.Tool.Comparison
import AsmLayout.Host.Tool.Difference
import AsmLayout.Host.Tool.Edit
import AsmLayout.Host.Tool.Facts
import AsmLayout.Host.Tool.Finding
import AsmLayout.Host.Tool.Folding
import AsmLayout.Host.Tool.Joining
import AsmLayout.Host.Tool.Lines
import AsmLayout.Host.Tool.Listing
import AsmLayout.Host.Tool.Naming
import AsmLayout.Host.Tool.Pairing
import AsmLayout.Host.Tool.Pieces
import AsmLayout.Host.Tool.Search
import AsmLayout.Host.Tool.Sorting
import AsmLayout.Host.Tool.Starting
import AsmLayout.Host.Tool.Sums
import AsmLayout.Host.Tool.Values
import AsmLayout.Invocation

/-! # A host with programs

The commands leave open what runs a line for an assembler. On this host it is the program that the
line names: one of a table of programs, here a shell and tools, or a script in a file for one of them.
-/

namespace AsmLayout.Host

open Text (Octets)

/-- The words that the first line of a script asks to be called with, if it does. -/
def interpreter? (text : Octets) : Option (List Octets) :=
  let isGap (c : Char) : Bool := c == ' ' || c == '\t'
  match text with
  | '#' :: '!' :: rest =>
    let line := ((rest.take 254).takeWhile (· != '\n')).dropWhile isGap
    let line := (line.reverse.dropWhile isGap).reverse
    let program := line.takeWhile fun c => !isGap c
    let argument := (line.drop program.length).dropWhile isGap
    if program.isEmpty then none
    else some (if argument.isEmpty then [program] else [program, argument])
  | _ => none

/-- Run what stands at a path. Programs may start others down to some depth. -/
def launchAt (programs : List (String × Tool)) : (depth : Nat) → Launcher
  | 0 => fun _ _ => return .error .tooManyLinks
  | depth + 1 => fun path words => do
    match ← nodeAt path with
    | .error cause => return .error cause
    | .ok id =>
      match (← files).node id with
      | .program name mode =>
        if !mode.canRun then return .error .permissionDenied
        match programs.lookup name with
        | some tool =>
          let calledAs := words.headD path
          return .ok (← withOutput name calledAs
            (tool (fun path words => launchAt programs depth path words) calledAs (words.drop 1)))
        | none => return .error .invalidFormat
      | .file bytes mode =>
        if !mode.canRun then return .error .permissionDenied
        match interpreter? (Text.octetsOfArray bytes) with
        | some front =>
          launchAt programs depth (front.headD []) (front ++ path :: words.drop 1)
        | none => return .error .invalidFormat
      | _ => return .error .permissionDenied

/-- How many programs can have started each other. -/
def longestLaunch : Nat := 400

/-- Whether the words of a command line can be handed to a process: a NUL would end a word too early. -/
def canStart (invocation : Invocation) : Bool :=
  !invocation.words.any (·.contains '\x00')

/-- The environment that every program gets. -/
def usualEnvironment : List (Octets × Octets) :=
  [(ascii "PATH", usualPath), (ascii "HOME", ascii "/root")]

/-- Run a program of some name in the place of a process. -/
def runNamed (programs : List (String × Tool)) (program : String) (arguments : List String) :
    Act (Except IoError Ending) := do
  let name := Text.octets program
  match ← findProgram usualPath name with
  | .error cause => return .error cause
  | .ok path => launchAt programs longestLaunch path (name :: arguments.map Text.octets)

/-- Run a command line with some programs; gives what the program says of it, and the files it leaves.
    Variables are added to the environment. -/
def executeWith (programs : List (String × Tool)) (added : List (String × String))
    (invocation : Invocation) (files : FileSystem) : Verdict × FileSystem :=
  let fail (reason : String) : Verdict :=
    .rejected ⟨none, s!"failed to run {invocation.program}: {reason}"⟩
  if !canStart invocation then (fail "nul byte found in provided data", files)
  else
    let environment := usualEnvironment ++
      added.map fun (name, value) => (Text.octets name, Text.octets value)
    let (result, process) :=
      (runNamed programs invocation.program invocation.args).run (start files environment)
    let verdict := match result with
      | .error cause => fail cause.message
      | .ok (.exited 0) => .accepted
      | .ok (.exited status) =>
        .rejected ⟨some status, Text.lossyText (process.unread 2).data.toList⟩
      | .ok (.killed _) => .rejected ⟨none, Text.lossyText (process.unread 2).data.toList⟩
    (verdict, process.world.files)

/-- The programs of this host, one table among those that `executeWith` takes. -/
def tools : List (String × Tool) :=
  [("true", always 0), ("false", always 1), ("echo", echoWords), ("printf", printFormat),
   ("test", testCondition false), ("[", testCondition true), ("expr", workOut), ("seq", showNumbers),
   ("basename", baseNames), ("dirname", directoryNames), ("pwd", showWorking), ("sleep", sleep),
   ("yes", repeatWords), ("cat", concatenate), ("tac", reverseLines), ("rev", reverseCharacters),
   ("nl", numberedLines),
   ("head", showPortions '-' Portion.front), ("tail", showPortions '+' Portion.back),
   ("wc", countFiles), ("tee", duplicate), ("paste", pasteLines), ("sort", sortLines),
   ("uniq", uniqueLines), ("fold", foldLines), ("comm", showCommon), ("join", joinFiles),
   ("expand", expandFiles), ("unexpand", unexpandFiles), ("diff", showDifferences),
   ("awk", runOnRecords), ("mawk", runOnRecords), ("tr", translate), ("cut", cutColumns),
   ("grep", searchLines 'G'),
   ("egrep", searchLines 'E'), ("fgrep", searchLines 'F'), ("sed", editStream),
   ("rm", removeFiles), ("mkdir", makeDirectories), ("rmdir", removeDirectories),
   ("touch", touchFiles), ("cp", copyFiles), ("mv", moveFiles), ("ln", linkFiles),
   ("link", nameFile), ("unlink", unnameFile), ("sync", storeFiles), ("mktemp", makeFresh),
   ("split", cutFile),
   ("ls", listFiles), ("chmod", changeModes), ("readlink", readLinks), ("realpath", realPaths),
   ("stat", tellFacts), ("find", findFiles), ("cmp", compareFiles), ("od", dumpBytes),
   ("base64", convertBits),
   ("truncate", resizeFiles), ("dd", copyBlocks), ("env", runInEnvironment), ("printenv", showEnvironment),
   ("nohup", passOn "" false), ("nice", passOn "n" false), ("timeout", passOn "ks" true),
   ("xargs", runWithWords), ("which", showPlaces),
   ("cksum", showChecksums), ("sum", showSums), ("md5sum", showHashes .md5),
   ("sha1sum", showHashes .sha1), ("sha224sum", showHashes .sha224),
   ("sha256sum", showHashes .sha256), ("sha384sum", showHashes .sha384),
   ("sha512sum", showHashes .sha512), ("sh", shell), ("dash", shell)]

def programNames : List String :=
  tools.map (·.1)

/-- Run a command line with the programs of the host. -/
def execute (added : List (String × String)) (invocation : Invocation) (files : FileSystem) :
    Verdict × FileSystem :=
  executeWith tools added invocation files

end AsmLayout.Host
