import AsmLayout.File.Content
import AsmLayout.Invocation
import AsmLayout.Randomization

/-! # Assembling with retries

A randomized source is kept only if the assembler accepts it. Every attempt starts from the pristine
text: a rejected one is undone before the next. Attempts come in phases, each milder than the one
before: all randomizations, then only neighbouring sections swapped, then no reordering at all (where
sections are reordered in the first place). The unmodified source is tried last.

On every way out but an accepted attempt the pristine text is put back.
-/

namespace AsmLayout

namespace Retry

/-- The number of attempts in each phase. -/
structure Policy where
  strict : Nat := 2
  relaxed : Nat := 6
  fallback : Nat := 6
  deriving Repr, DecidableEq

/-- The phases in order. -/
inductive Phase where
  | strict
  | relaxed
  | fallback
  deriving Repr, DecidableEq

def Phase.name : Phase → String
  | strict => "strict"
  | relaxed => "relaxed"
  | fallback => "fallback"

/-- Which source was assembled in the end. -/
inductive Outcome where
  /-- A randomized one, on a numbered attempt of a phase. -/
  | randomized (phase : Phase) (attempt : Nat)
  | unmodified
  deriving Repr, DecidableEq

/-- A run that ended with an assembled source. -/
structure Report where
  outcome : Outcome
  /-- How often the assembler ran. -/
  attempts : Nat
  deriving Repr, DecidableEq

/-- Attempts that go on in the same way until one is accepted. -/
structure Stage where
  phase : Phase
  /-- How many attempts there are at most. -/
  attempts : Nat
  config : Config
  mode : StructureMode
  deriving Repr, DecidableEq

/-- The stages in order, one for each phase. The fallback phase exists only where sections are
    reordered. -/
def plan (policy : Policy) (config : Config) : List Stage :=
  { phase := .strict, attempts := policy.strict, config, mode := .shuffle } ::
  { phase := .relaxed, attempts := policy.relaxed, config, mode := .smallChanges } ::
  if config.fileStructure then
    [{ phase := .fallback, attempts := policy.fallback, config := config.withoutFileStructure,
       mode := .shuffle }]
  else []

/-- An assembler with a state of its own. It sees what stands at the source path and leaves
    something there. -/
abbrev Assembler (σ : Type) := σ → Content → Verdict × Content × σ

inductive Event where
  | randomized (randomized : Config.Randomized)
  | accepted (phase : Phase) (attempt : Nat)
  | rejected (phase : Phase) (attempt : Nat) (stderr : String)
  | droppedReordering
  | unmodified
  | failed (stderr : String)
  /-- The pristine text could not be put back. -/
  | notRestored (cause : IoError)
  deriving DecidableEq

/-- The end of a run. -/
structure Run (G σ : Type) where
  result : Except Failure Report
  /-- What stands at the source path. -/
  source : Content
  generator : G
  assembler : σ
  /-- What happened, in order. -/
  events : List Event

namespace Run

variable {G σ : Type}

def after (events : List Event) (run : Run G σ) : Run G σ :=
  { run with events := events ++ run.events }

/-- Put the pristine text back if that can be done. -/
def restored (pristine : String) (run : Run G σ) : Run G σ :=
  match run.source.write pristine with
  | .ok source => { run with source }
  | .error cause => { run with events := run.events ++ [.notRestored cause] }

end Run

variable {G σ : Type} [Random.Generator G]

/-- Randomize what stands at the source path, in place. -/
def randomizeSource (config : Config) (mode : StructureMode) (width : PointerWidth)
    (path : String) (source : Content) (g : G) :
    Except Failure (Content × List Event) × G :=
  if !config.isActive then (.ok (source, []), g)
  else match source.read with
    | .error cause => (.error (.source (.fileRead path cause)), g)
    | .ok text =>
      match config.randomize mode width text g with
      | (.error failure, g) => (.error failure, g)
      | (.ok none, g) => (.ok (source, []), g)
      | (.ok (some randomized), g) =>
        match source.write randomized.text with
        | .error cause => (.error (.source (.fileWrite path cause)), g)
        | .ok source => (.ok (source, [.randomized randomized]), g)

/-- Run the assembler on the pristine source, after `attempts` rejected runs. -/
def assembleUnmodified (assemble : Assembler σ) (pristine : String) (attempts : Nat)
    (source : Content) (g : G) (s : σ) : Run G σ :=
  let (verdict, source, s) := assemble s source
  let (result, event) : Except Failure Report × Event := match verdict with
    | .accepted => (.ok ⟨.unmodified, attempts + 1⟩, .unmodified)
    | .rejected rejection =>
      (.error (.assemblerFailed (attempts + 1) rejection.status rejection.stderr),
        .failed rejection.stderr)
  Run.restored pristine { result, source, generator := g, assembler := s, events := [event] }

/-- Make the attempts of a stage of which `left` are left, after `attempts` rejected runs. When none is
    left, `onward` goes on. -/
def tryStage (assemble : Assembler σ) (width : PointerWidth) (path pristine : String)
    (stage : Stage) (onward : (attempts : Nat) → Content → G → σ → Run G σ) :
    (left attempts : Nat) → Content → G → σ → Run G σ
  | 0, attempts, source, g, s => onward attempts source g s
  | left + 1, attempts, source, g, s =>
    let number := stage.attempts - left
    match randomizeSource stage.config stage.mode width path source g with
    | (.error failure, g) =>
      Run.restored pristine
        { result := .error failure, source, generator := g, assembler := s, events := [] }
    | (.ok (source, events), g) =>
      let (verdict, source, s) := assemble s source
      match verdict with
      | .accepted =>
        { result := .ok ⟨.randomized stage.phase number, attempts + 1⟩, source, generator := g,
          assembler := s, events := events ++ [.accepted stage.phase number] }
      | .rejected rejection =>
        let events := events ++ [.rejected stage.phase number rejection.stderr]
        match source.write pristine with
        | .error cause =>
          (Run.restored pristine
            { result := .error (.source (.fileWrite path cause)), source, generator := g,
              assembler := s, events := [] }).after events
        | .ok source =>
          (tryStage assemble width path pristine stage onward left (attempts + 1) source g
            s).after events

/-- What is told when a stage begins. -/
def Stage.opening (stage : Stage) : List Event :=
  match stage.phase with
  | .fallback => [.droppedReordering]
  | .strict | .relaxed => []

/-- Go through a plan, after `attempts` rejected runs. -/
def follow (assemble : Assembler σ) (width : PointerWidth) (path pristine : String) :
    List Stage → (attempts : Nat) → Content → G → σ → Run G σ
  | [], attempts, source, g, s => assembleUnmodified assemble pristine attempts source g s
  | stage :: rest, attempts, source, g, s =>
    (tryStage assemble width path pristine stage (follow assemble width path pristine rest)
      stage.attempts attempts source g s).after stage.opening

/-- Randomize and assemble the source at `path`. -/
def run (config : Config) (policy : Policy) (width : PointerWidth) (assemble : Assembler σ)
    (path : String) (source : Content) (g : G) (s : σ) : Run G σ :=
  match source.read with
  | .error cause =>
    { result := .error (.source (.fileRead path cause)), source, generator := g,
      assembler := s, events := [] }
  | .ok pristine => follow assemble width path pristine (plan policy config) 0 source g s

end Retry

end AsmLayout
