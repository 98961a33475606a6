import AsmLayout.Failure
import AsmLayout.Section.Segment

/-! # Which randomizations run

A configuration switches each randomization on or off and bounds the padding amounts.
-/

namespace AsmLayout

/-- What is randomized. A bound of zero switches a padding off. -/
structure Config where
  /-- Allocation sizes grow by amounts below this bound. -/
  heap : Nat := 0
  /-- Stack frames grow by amounts below this bound. -/
  stack : Nat := 0
  bss : Bool := false
  data : Bool := false
  rodata : Bool := false
  /-- Sections are reordered. -/
  fileStructure : Bool := false
  deriving Repr, DecidableEq

namespace Config

def isActive (config : Config) : Bool :=
  config.heap > 0 || config.stack > 0 || config.bss || config.data || config.rodata ||
    config.fileStructure

/-- The largest padding bound: amounts below it fit a sign-extended immediate of 32 bits. -/
def maxBound : Nat := 0x80000000

/-- Refuse a padding bound that is too large; the heap bound is looked at first. -/
def validate (config : Config) : Except Failure Unit :=
  if maxBound < config.heap then .error (.paddingBoundTooLarge "heap" config.heap maxBound)
  else if maxBound < config.stack then
    .error (.paddingBoundTooLarge "stack" config.stack maxBound)
  else .ok ()

/-- The data segments whose objects are shuffled, in the order in which they are. -/
def segments (config : Config) : List DataSegment :=
  [DataSegment.bss, .data, .rodata].filter fun
    | .bss => config.bss
    | .data => config.data
    | .rodata => config.rodata

/-- The same without reordering sections. -/
def withoutFileStructure (config : Config) : Config :=
  { config with fileStructure := false }

end Config

end AsmLayout
