import AsmLayout.Listing.Padding
import AsmLayout.Proofs.Checked.Allocation
import AsmLayout.Proofs.Checked.Extent
import AsmLayout.Proofs.Checked.Segment

/-! # Reading and editing a listing by positions

The filler of a begin marker is cut out by its length, and a fault in one section stops the edit of
all sections.
-/

namespace AsmLayout.Checked

/-- The hyphens and spaces that a text opens with: what trimming them takes off. -/
def filler (text : List Char) : Except Fault (List Char) := do
  let tail := text.dropWhile fun c => c == '-' || c == ' '
  slice text 0 (← subtract text.length tail.length)

def isBeginMarker (line : Line) : Except Fault Bool :=
  match line.chars with
  | '#' :: rest => do
    let filler ← filler rest
    let tail := rest.dropWhile fun c => c == '-' || c == ' '
    return filler.getLast? == some ' ' && "Begin ".toList.isPrefixOf tail
  | _ => .ok false

def detect (lines : List Line) : Except Fault (Except Error Dialect) := do
  if ← lines.anyM isBeginMarker then return .ok .libfirm
  else if lines.any Dialect.isCallFrame then return .ok .gcc
  else return .error (.unknownDialect lines.length)

def isFunctionLine : Dialect → Line → Except Fault Bool
  | .libfirm, line => if line.isFunctionLabel then .ok true else isBeginMarker line
  | .gcc, line => .ok line.isFunctionLabel

def sectionOf (dialect : Dialect) (lines : List Line) : Except Fault Section := do
  let holdsFunction ← lines.anyM (isFunctionLine dialect)
  return { kind := if holdsFunction then .function else .plain, dialect, lines }

def parse (text : String) : Except Fault (Except Error Listing) := do
  let lines := Line.numbered 0
    ((Text.lines text.toList).map fun line => String.ofList (Text.trimEnd line))
  match ← detect lines with
  | .ok dialect =>
    return .ok { dialect, sections := ← (runs dialect.splitsBefore lines).mapM (sectionOf dialect) }
  | .error cause => return .error cause

section

variable {G : Type} [Random.Generator G]

def traverse {α β : Type} (step : α → G → Except Fault (β × G)) :
    List α → G → Except Fault (List β × G)
  | [], g => .ok ([], g)
  | x :: xs, g => do
    let (y, g) ← step x g
    let (ys, g) ← traverse step xs g
    return (y :: ys, g)

def shuffleSegments (segment : DataSegment) (listing : Listing) (g : G) :
    Except Fault ((Listing × List ShuffledExtent) × G) := do
  let (edits, g) ← traverse (shuffleSegment segment) listing.sections g
  return ((listing.withEdits edits, edits.flatMap (·.2)), g)

def padAllAllocations (range : Random.Interval) (width : PointerWidth) (listing : Listing) (g : G) :
    Except Fault ((Listing × List (List PaddedCall)) × G) := do
  let (edits, g) ← traverse (padAllocations range width) listing.sections g
  return ((listing.withEdits edits, edits.map (·.2)), g)

def padFramesOf (range : Random.Interval) (sec : Section) (g : G) :
    Except Fault ((Section × List FrameOutcome) × G) :=
  if sec.isFunction then do
    let (amount, g) ← draw range g
    return (← padFrames amount sec, g)
  else .ok ((sec, []), g)

def padAllFrames (range : Random.Interval) (listing : Listing) (g : G) :
    Except Fault ((Listing × List FrameOutcome) × G) :=
  if range.isEmpty then .ok ((listing, []), g)
  else do
    let (edits, g) ← traverse (padFramesOf range) listing.sections g
    return ((listing.withEdits edits, edits.flatMap (·.2)), g)

end

theorem filler_eq (text : List Char) :
    filler text = .ok (text.takeWhile fun c => c == '-' || c == ' ') := by
  have cut := slice_append [] (text.takeWhile fun c => c == '-' || c == ' ')
    (text.dropWhile fun c => c == '-' || c == ' ')
  have whole := congrArg List.length
    (List.takeWhile_append_dropWhile (p := fun c => c == '-' || c == ' ') (l := text))
  rw [List.nil_append, List.takeWhile_append_dropWhile, List.length_nil, Nat.zero_add] at cut
  rw [List.length_append] at whole
  have length : subtract text.length (text.dropWhile fun c => c == '-' || c == ' ').length =
      .ok (text.takeWhile fun c => c == '-' || c == ' ').length := by
    rw [subtract_of_le (by omega), ← whole, Nat.add_sub_cancel]
  rw [filler, length]
  exact cut

theorem isBeginMarker_eq (line : Line) : isBeginMarker line = .ok (Dialect.isBeginMarker line) := by
  unfold Dialect.isBeginMarker
  split
  next rest opens =>
    simp only [isBeginMarker, opens, filler_eq]
    rfl
  next plain =>
    rw [isBeginMarker]
    split
    next rest opens => exact absurd opens (plain rest)
    next => rfl

theorem detect_eq (lines : List Line) : detect lines = .ok (Dialect.detect lines) := by
  have marked : lines.anyM isBeginMarker = pure (lines.any Dialect.isBeginMarker) := by
    rw [← List.anyM_pure]
    congr 1
    funext line
    exact isBeginMarker_eq line
  rw [detect, marked, Dialect.detect]
  simp only [pure, Except.pure, bind, Except.bind]
  split <;> [rfl; (split <;> rfl)]

theorem sectionOf_eq (dialect : Dialect) (lines : List Line) :
    sectionOf dialect lines = .ok (Section.ofLines dialect lines) := by
  have held : lines.anyM (isFunctionLine dialect) = pure (Section.holdsFunction dialect lines) := by
    rw [Section.holdsFunction, ← List.anyM_pure]
    congr 1
    funext line
    cases dialect with
    | libfirm =>
        rw [isFunctionLine, isBeginMarker_eq, Dialect.isFunctionMarker]
        cases line.isFunctionLabel <;> rfl
    | gcc => rw [isFunctionLine, Dialect.isFunctionMarker, Bool.or_false]; rfl
  rw [sectionOf, held]
  rfl

theorem parse_eq (text : String) : parse text = .ok (Listing.parse text) := by
  rw [parse, Listing.parse, Listing.ofLines]
  simp only [detect_eq, bind, Except.bind]
  cases Dialect.detect (Line.numbered 0
    ((Text.lines text.toList).map fun line => String.ofList (Text.trimEnd line))) with
  | error cause => rfl
  | ok dialect =>
      have made : sectionOf dialect = fun lines => pure (Section.ofLines dialect lines) :=
        funext (sectionOf_eq dialect)
      simp only [made, List.mapM_pure]
      rfl

section

variable {G : Type} [Random.Generator G]

omit [Random.Generator G] in
theorem traverse_eq {α β : Type} {step : α → G → Except Fault (β × G)} {plain : α → G → β × G}
    (same : ∀ x g, step x g = .ok (plain x g)) (xs : List α) (g : G) :
    traverse step xs g = .ok (Random.traverse plain xs g) := by
  induction xs generalizing g with
  | nil => rfl
  | cons x xs ih =>
      rw [traverse, same, Random.traverse]
      simp only [bind, Except.bind, ih]
      rfl

theorem shuffleSegments_eq (segment : DataSegment) (listing : Listing) (g : G) :
    shuffleSegments segment listing g = .ok (listing.shuffleSegment segment g) := by
  rw [shuffleSegments, traverse_eq (shuffleSegment_eq segment)]
  rfl

theorem padAllAllocations_eq (range : Random.Interval) (width : PointerWidth) (listing : Listing)
    (g : G) :
    padAllAllocations range width listing g = .ok (listing.padAllocations range width g) := by
  rw [padAllAllocations, traverse_eq (padAllocations_eq range width)]
  rfl

theorem padFramesOf_eq {range : Random.Interval} (filled : range.isEmpty = false) (sec : Section)
    (g : G) : padFramesOf range sec g = .ok (Listing.padFramesOf range sec g) := by
  rw [padFramesOf, Listing.padFramesOf]
  split
  next =>
    rw [draw_of_filled filled]
    simp only [bind, Except.bind, padFrames_eq]
    rfl
  next => rfl

/-- The range is looked at once, in front of all the draws. -/
theorem padAllFrames_eq (range : Random.Interval) (listing : Listing) (g : G) :
    padAllFrames range listing g = .ok (listing.padFrames range g) := by
  rw [padAllFrames, Listing.padFrames]
  split
  next => rfl
  next filled =>
    rw [traverse_eq (padFramesOf_eq (eq_false_of_ne_true filled))]
    rfl

end

end AsmLayout.Checked
