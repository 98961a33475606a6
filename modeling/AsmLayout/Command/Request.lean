import AsmLayout.Command.Arguments
import AsmLayout.Command.Assemble
import AsmLayout.Command.Sections

/-! # Commands and their arguments

The first argument names a command, and each command has options of its own. A request read from the
arguments holds all that its command needs, apart from the files and the settings.
-/

namespace AsmLayout.Command

/-- What is asked for on the command line. -/
inductive Request where
  | assemble (request : AssembleRequest)
  | randomize (request : RandomizeRequest)
  | sections (input : String)
  deriving Repr, DecidableEq

def assembleOptions : Options :=
  { valued := ["as", "seed"], trailing := true }

def randomizeOptions : Options :=
  { flags := ["bss", "data", "rodata", "file-structure", "small-changes"]
    valued := ["heap", "stack", "seed", "output"]
    letters := [('o', "output")] }

/-- The arguments of the command that stands in for an assembler. -/
def readAssemble (arguments : List String) : Except UsageError Request := do
  let parsed ← parseArguments assembleOptions {} arguments
  if parsed.positional.isEmpty then throw .wrongPositionals
  return .assemble
    { assembler := parsed.value? "as", seed := parsed.value? "seed", line := parsed.positional }

/-- The arguments of the command that randomizes a file. -/
def readRandomize (arguments : List String) : Except UsageError Request := do
  let parsed ← parseArguments randomizeOptions {} arguments
  let heap ← numberOption parsed "heap"
  let stack ← numberOption parsed "stack"
  let output ← pathOption parsed "output"
  match parsed.positional with
  | [input] =>
    return .randomize
      { input := ← nonemptyPath "input" input
        config :=
          { heap, stack, bss := parsed.hasFlag "bss", data := parsed.hasFlag "data",
            rodata := parsed.hasFlag "rodata", fileStructure := parsed.hasFlag "file-structure" }
        mode := if parsed.hasFlag "small-changes" then .smallChanges else .shuffle
        seed := parsed.value? "seed"
        output }
  | _ => throw .wrongPositionals

/-- The arguments of the command that shows sections. -/
def readSections (arguments : List String) : Except UsageError Request := do
  let parsed ← parseArguments {} {} arguments
  match parsed.positional with
  | [input] => return .sections input
  | _ => throw .wrongPositionals

def readRequest : List String → Except UsageError Request
  | "assemble" :: arguments => readAssemble arguments
  | "randomize" :: arguments => readRandomize arguments
  | "sections" :: arguments => readSections arguments
  | ["help"] => .error .help
  | argument :: _ => if argument = "--help" || argument = "-h" then .error .help
    else .error .unknownCommand
  | [] => .error .unknownCommand

/-- Do what is asked for on a system that runs assemblers. `settingsText` is the text of the variable with
    the settings, and `fresh` the seed for a request without one. -/
def perform (launch : Launch) (request : Request) (settingsText : Option String) (fresh : Seed)
    (files : FileSystem) : Outcome :=
  match request with
  | .assemble request => Command.assemble launch request settingsText fresh files
  | .randomize request => randomizeFile request fresh files
  | .sections input => showSections input files

end AsmLayout.Command
