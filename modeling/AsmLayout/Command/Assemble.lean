import AsmLayout.Command.Randomize
import AsmLayout.Retry
import AsmLayout.Settings

/-! # The command that stands in for an assembler

It randomizes the source file that a line for the assembler names last and runs the assembler on it,
with milder randomizations until the assembler accepts the result. The assembler is a program of the
system: how it is run, and what it does to the files, is a parameter.
-/

namespace AsmLayout.Command

structure AssembleRequest where
  /-- The assembler to run, in the place of the one in the settings. -/
  assembler : Option String
  /-- The seed to use, in the place of the one in the settings. -/
  seed : Option String
  /-- The line for the assembler; its first word is replaced. -/
  line : List String
  deriving Repr, DecidableEq

/-- Settings with the wishes of a request on top. -/
def AssembleRequest.override (request : AssembleRequest) (settings : Settings) : Settings :=
  { settings with
    assembler := request.assembler.getD settings.assembler
    seed := match request.seed with
      | some text => some text
      | none => settings.seed }

/-- The report of a run that ended with an assembled source. -/
def reportEntry (path : String) (report : Retry.Report) : Journal.Entry :=
  match report.outcome with
  | .randomized phase attempt =>
    ⟨.debug, "asmrand_cli::commands::assemble",
      s!"Randomized {path} in {phase.name} phase (attempt {attempt}, {report.attempts} assembler runs)"⟩
  | .unmodified =>
    ⟨.debug, "asmrand_cli::commands::assemble",
      s!"Assembled {path} without randomization after {report.attempts} runs"⟩

def settingsVariable : String := "RANDOMIZATION"

/-- How a system runs a line for the assembler, with variables added to the environment: the verdict, and
    the files that are left. -/
abbrev Launch := (added : List (String × String)) → Invocation → FileSystem → Verdict × FileSystem

/-- The assembler of a line. Its state holds the files; what stands at the source path is handed to it and
    taken back. -/
def Launch.assembler (launch : Launch) (added : List (String × String)) (invocation : Invocation) :
    Retry.Assembler FileSystem := fun files source =>
  let (verdict, files) := launch added invocation (files.put invocation.source source)
  (verdict, files.lookup invocation.source, files)

/-- Run a call of an assembler with retries. Variables are added to what the assembler knows. -/
def assembleWith (launch : Launch) (config : Config) (invocation : Invocation)
    (added : List (String × String)) (seed : Seed) (files : FileSystem) : Outcome :=
  let path := invocation.source
  let run := Retry.run config {} .bits64 (launch.assembler added invocation) path
    (files.lookup path) seed.generator files
  let entries := run.events.flatMap (Journal.ofEvent path)
  let files := run.assembler.put path run.source
  match run.result with
  | .error cause => { result := .error (.failure cause), stdout := "", entries, files }
  | .ok report =>
    { result := .ok (), stdout := "", entries := entries ++ [reportEntry path report], files }

/-- Stand in for an assembler. The settings come from the text of a variable. -/
def assemble (launch : Launch) (request : AssembleRequest) (settingsText : Option String)
    (fresh : Seed) (files : FileSystem) : Outcome :=
  let fail (cause : CommandError) (entries : List Journal.Entry) : Outcome :=
    { result := .error cause, stdout := "", entries, files }
  match Settings.ofVariable settingsText with
  | .error cause => fail (.failure cause) []
  | .ok settings =>
    let settings := request.override settings
    match settings.chosenSeed fresh with
    | .error cause => fail (.failure cause) []
    | .ok seed =>
      let entry := seedEntry "asmrand_cli::commands::assemble" seed
      match Invocation.ofWords settings.assembler request.line with
      | .error _ => fail (.missingSource request.line) [entry]
      | .ok invocation =>
        let added := settingsText.toList.map fun text => (settingsVariable, text)
        let outcome := assembleWith launch settings.config invocation added seed files
        { outcome with entries := entry :: outcome.entries }

end AsmLayout.Command
