import AsmLayout.Json.Domain
import AsmLayout.Main
import AsmLayout.Proofs.Retry.Course
import AsmLayout.Proofs.Retry.Restoration
import AsmLayout.Proofs.Retry.Accounting
import AsmLayout.Proofs.Draws
import AsmLayout.Proofs.Instruction
import AsmLayout.Proofs.Retry.Freshness
import AsmLayout.Proofs.Runs
import AsmLayout.Proofs.Landmarks
import AsmLayout.Proofs.Section.Allocation
import AsmLayout.Proofs.Section.Frame
import AsmLayout.Proofs.Listing.Partition
import AsmLayout.Proofs.Section.Segment
import AsmLayout.Proofs.Listing.Order
import AsmLayout.Proofs.Listing.Edits
import AsmLayout.Proofs.Listing.Arrangement
import AsmLayout.Proofs.Listing.Directive
import AsmLayout.Proofs.Section.Extent
import AsmLayout.Proofs.Section.Conservation
import AsmLayout.Proofs.Pipeline
import AsmLayout.Proofs.Lines
import AsmLayout.Proofs.Listing.Rendering
import AsmLayout.Proofs.Listing.RoundTrip
import AsmLayout.Proofs.Listing.Numbering
import AsmLayout.Proofs.Section.Unchanged
import AsmLayout.Proofs.Discarding
import AsmLayout.Proofs.Listing.Reparsing
import AsmLayout.Proofs.Reparsing
import AsmLayout.Proofs.Insertion
import AsmLayout.Proofs.Section.Insertion
import AsmLayout.Proofs.Section.FrameInsertion
import AsmLayout.Proofs.Listing.Commutation
import AsmLayout.Proofs.Retry.Readiness
import AsmLayout.Proofs.Section.Patching
import AsmLayout.Proofs.Section.Release
import AsmLayout.Proofs.Json.Number
import AsmLayout.Proofs.Json.Quoted
import AsmLayout.Proofs.Json.Token
import AsmLayout.Proofs.Json.Value
import AsmLayout.Proofs.Settings
import AsmLayout.Proofs.Checked.Randomization
import AsmLayout.Proofs.Section.LabelStretch
import AsmLayout.Proofs.Section.Objects
import AsmLayout.Proofs.Section.ObjectDirective
import AsmLayout.Proofs.Listing.Movable
import AsmLayout.Proofs.Decoding
import AsmLayout.Proofs.Section.Placement
import AsmLayout.Proofs.Listing.Appending
import AsmLayout.Proofs.Recognition
import AsmLayout.Proofs.Seed
import AsmLayout.Proofs.Section.LeftOver
import AsmLayout.Proofs.Listing.SkippedLines
