import AsmLayout.Transform

/-! # Randomizing a text

A configuration turns into a sequence of transforms, which is run on the listing of a text.
-/

namespace AsmLayout

namespace Config

/-- The transforms of a configuration in the order in which they run: sections, allocation calls,
    stack frames, data segments. -/
def transforms (config : Config) (mode : StructureMode) (width : PointerWidth) : List Transform :=
  (if config.fileStructure then [.reorder mode] else []) ++
  (if config.heap > 0 then [.padAllocations config.heap width] else []) ++
  (if config.stack > 0 then [.padFrames config.stack] else []) ++
  config.segments.map .shuffleSegment

/-- A randomized text, with how it came about. -/
structure Randomized where
  /-- The listing of the text beforehand. -/
  parsed : Listing
  steps : List Transform.Step
  /-- The listing after the transforms. -/
  result : Listing
  deriving Repr, DecidableEq

def Randomized.text (randomized : Randomized) : String :=
  randomized.result.render

variable {G : Type} [Random.Generator G]

/-- Randomize a text. Nothing is done, and the text not even parsed, where nothing is randomized. -/
def randomize (config : Config) (mode : StructureMode) (width : PointerWidth) (text : String)
    (g : G) : Except Failure (Option Randomized) × G :=
  if !config.isActive then (.ok none, g)
  else match config.validate with
    | .error failure => (.error failure, g)
    | .ok () => match Listing.parse text with
      | .error cause => (.error (.source cause), g)
      | .ok listing =>
        let ((result, steps), g) :=
          Transform.runAll (config.transforms mode width) listing g
        (.ok (some { parsed := listing, steps, result }), g)

end Config

end AsmLayout
