import AsmLayout.Journal
import AsmLayout.Journal.Diagnostics
import AsmLayout.Retry

/-! # What randomizations and retries report

Entries are read off what a run tells of itself, so that reporting cannot change what is done.
-/

namespace AsmLayout

namespace Journal

def inspectNumbers (numbers : List Nat) : String :=
  Text.inspectList (numbers.map toString)

/-- The report of a parsed listing. -/
def ofListing (listing : Listing) : Entry :=
  ⟨.debug, "asmrand_core::assembly",
    s!"{listing.dialect.name} file with {listing.sections.length} sections"⟩

def ofOrder (mode : StructureMode) (starts : List Nat) (outcome : OrderOutcome) : List Entry :=
  let unchanged : Entry :=
    ⟨.debug, "asmrand_transform::file_structure", s!"Section order unchanged ({mode.name})"⟩
  ⟨.debug, "asmrand_transform::file_structure",
    "Original section order (by first line): " ++ inspectNumbers starts⟩ ::
  match outcome with
  | .tooFew count =>
    [⟨.debug, "asmrand_core::assembly", s!"not enough movable sections ({count})"⟩, unchanged]
  | .kept =>
    [⟨.debug, "asmrand_core::assembly", "file structure randomization kept the original order"⟩,
      unchanged]
  | .reordered positions sources =>
    [⟨.debug, "asmrand_core::assembly",
      s!"section order {inspectNumbers positions} -> {inspectNumbers sources}"⟩]

/-- The reports of padded allocation calls, in the order in which the amounts were drawn. -/
def ofCalls (limit : Nat) (calls : List (List PaddedCall)) : List Entry :=
  calls.flatMap (fun calls => calls.reverse.map fun call =>
    ⟨.debug, "asmrand_core::section",
      s!"padding allocation at line {call.line} by {call.amount}"⟩) ++
  [⟨.debug, "asmrand_transform::heap_padding",
    s!"Padded {Effect.callCount calls} allocation calls (bound {limit})"⟩]

/-- The report of one function's frame. A function end without a label is no function. -/
def ofFrame? : FrameOutcome → Option Entry
  | .padded function amount returns =>
    some ⟨.debug, "asmrand_core::section::function",
      s!"padded {function} by {amount} bytes ({returns} returns)"⟩
  | .skipped (.missingLabel _) => none
  | .skipped reason =>
    some ⟨.debug, "asmrand_core::section::function",
      "rolled back stack padding: " ++ reason.inspect⟩

/-- The reports of padded frames. -/
def ofFrames (outcomes : List FrameOutcome) : List Entry :=
  let report := PaddingReport.ofOutcomes outcomes
  outcomes.filterMap ofFrame? ++
  report.skipped.map (fun reason =>
    ⟨.debug, "asmrand_transform::stack_padding", "Skipped stack padding: " ++ reason.inspect⟩) ++
  [⟨.debug, "asmrand_transform::stack_padding",
    s!"Padded {report.padded.length} functions, skipped {report.skipped.length}"⟩]

def ofExtents (segment : DataSegment) (extents : List ShuffledExtent) : List Entry :=
  extents.map (fun extent =>
    ⟨.debug, "asmrand_core::section",
      s!"shuffled {extent.runs} sub-runs of .{segment.name} at line {extent.line}"⟩) ++
  [⟨.debug, "asmrand_transform::segment_shuffle",
    s!"Shuffled {extents.length} .{segment.name} extents"⟩]

/-- The reports of what a transform did. -/
def ofEffect : Transform → Effect → List Entry
  | .reorder mode, .order starts outcome => ofOrder mode starts outcome
  | .padAllocations limit _, .allocations calls => ofCalls limit calls
  | .padFrames _, .frames outcomes => ofFrames outcomes
  | .shuffleSegment segment, .objects extents => ofExtents segment extents
  | _, _ => []

def signedText (after before : Nat) : String :=
  if before ≤ after then s!"+{after - before}" else s!"-{before - after}"

/-- The reports of a step of a sequence of transforms. -/
def ofStep (step : Transform.Step) : List Entry :=
  ofEffect step.transform step.effect ++
  if step.effect.isChange then
    let name := Text.padLeft 14 step.transform.name
    [⟨.info, "asmrand_transform::pass",
      s!"{name} Δ{signedText step.linesAfter step.linesBefore} lines"⟩]
  else []

/-- The reports of a randomized text. -/
def ofRandomized (randomized : Config.Randomized) : List Entry :=
  ofListing randomized.parsed :: randomized.steps.flatMap ofStep ++
  [⟨.debug, "asmrand_transform::processor",
    "Applied transforms: " ++
      Text.inspectList ((Transform.applied randomized.steps).map Text.inspect)⟩]

def ofRetries (level : Level) (message : String) : Entry :=
  ⟨level, "asmrand_transform::driver", message⟩

/-- The reports of what happened while the source at `path` was assembled. -/
def ofEvent (path : String) : Retry.Event → List Entry
  | .randomized randomized => ofRandomized randomized
  | .accepted phase attempt =>
    [ofRetries .info s!"Assembled {path} ({phase.name} phase, attempt {attempt})"]
  | .rejected phase attempt stderr =>
    let reason := String.ofList (Text.trim stderr.toList)
    [ofRetries .warn s!"Assembler rejected {phase.name} phase attempt {attempt}: {reason}"]
  | .droppedReordering => [ofRetries .warn "Disabled file structure randomization"]
  | .unmodified => [ofRetries .warn s!"Randomization failed, assembled {path} unmodified"]
  | .failed stderr => [ofRetries .error stderr]
  | .notRestored cause =>
    let failure := Failure.source (.fileWrite path cause)
    [ofRetries .error s!"Could not restore {path}: {failure.message}"]

end Journal

end AsmLayout
