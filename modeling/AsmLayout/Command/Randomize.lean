import AsmLayout.Command.Outcome
import AsmLayout.Journal.Entries
import AsmLayout.Seed

/-! # The command that randomizes a file once

The result is printed or written to a file; nothing is assembled.
-/

namespace AsmLayout.Command

structure RandomizeRequest where
  input : String
  config : Config
  mode : StructureMode
  /-- The text of a seed; without one a fresh seed is taken. -/
  seed : Option String
  /-- The file for the result; without one it is printed. -/
  output : Option String
  deriving Repr, DecidableEq

/-- The report of the seed in use. -/
def seedEntry (module : String) (seed : Seed) : Journal.Entry :=
  ⟨.debug, module, s!"Randomization seed: {seed.toHex}"⟩

/-- Print or write a result. What is written to an open file of the process by its path comes out there. -/
def deliver (request : RandomizeRequest) (text : String) (entries : List Journal.Entry)
    (files : FileSystem) : Outcome :=
  match request.output with
  | none => { result := .ok (), stdout := text, entries, files }
  | some path =>
    match files.writeText path text with
    | .ok files =>
      let textFor (descriptor : Nat) : String :=
        if files.descriptorAt? path = some descriptor then text else ""
      { result := .ok (), stdout := textFor 1, aside := textFor 2, entries, files }
    | .error cause => { result := .error (.file cause), stdout := "", entries, files }

def randomizeWith (request : RandomizeRequest) (seed : Seed) (files : FileSystem) : Outcome :=
  let entries := [seedEntry "asmrand_cli::commands::randomize" seed]
  match files.readText request.input with
  | .error cause => { result := .error (.file cause), stdout := "", entries, files }
  | .ok text =>
    match (request.config.randomize request.mode .bits64 text seed.generator).1 with
    | .error cause => { result := .error (.failure cause), stdout := "", entries, files }
    | .ok none => deliver request text entries files
    | .ok (some randomized) =>
      deliver request randomized.text (entries ++ Journal.ofRandomized randomized) files

/-- Randomize a file. The seed is looked at before the file is. -/
def randomizeFile (request : RandomizeRequest) (fresh : Seed) (files : FileSystem) : Outcome :=
  match request.seed with
  | none => randomizeWith request fresh files
  | some text =>
    match Seed.ofHex text with
    | .ok seed => randomizeWith request seed files
    | .error cause => { result := .error (.source cause), stdout := "", entries := [], files }

end AsmLayout.Command
