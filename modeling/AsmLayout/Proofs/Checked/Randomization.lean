import AsmLayout.Proofs.Checked.Listing
import AsmLayout.Proofs.Checked.Order
import AsmLayout.Randomization

/-! # Randomizing a text by positions

Everything that a run does by positions, draws and loops is checked where it happens. No text,
configuration or generator brings a run to a fault, and what it gives is what the listing gives.
-/

namespace AsmLayout.Checked

variable {G : Type} [Random.Generator G]

def apply (transform : Transform) (listing : Listing) (g : G) :
    Except Fault ((Listing × Effect) × G) :=
  match transform with
  | .reorder mode => do
    let ((after, outcome), g) ← reorder mode listing g
    return ((after, .order (listing.sections.map (·.span.1)) outcome), g)
  | .padAllocations bound width => do
    let ((after, calls), g) ← padAllAllocations ⟨0, bound⟩ width listing g
    return ((after, .allocations calls), g)
  | .padFrames bound => do
    let ((after, outcomes), g) ← padAllFrames ⟨0, bound⟩ listing g
    return ((after, .frames outcomes), g)
  | .shuffleSegment segment => do
    let ((after, extents), g) ← shuffleSegments segment listing g
    return ((after, .objects extents), g)

def runAll : List Transform → Listing → G → Except Fault ((Listing × List Transform.Step) × G)
  | [], listing, g => .ok ((listing, []), g)
  | transform :: rest, listing, g => do
    let ((edited, effect), g) ← apply transform listing g
    let kept := if effect.isChange then edited else listing
    let ((final, steps), g) ← runAll rest kept g
    return ((final, ⟨transform, effect, listing.lineCount, edited.lineCount⟩ :: steps), g)

def randomize (config : Config) (mode : StructureMode) (width : PointerWidth) (text : String)
    (g : G) : Except Fault (Except Failure (Option Config.Randomized) × G) :=
  if !config.isActive then .ok (.ok none, g)
  else match config.validate with
    | .error failure => .ok (.error failure, g)
    | .ok () => do
      match ← parse text with
      | .error cause => return (.error (.source cause), g)
      | .ok listing =>
        let ((result, steps), g) ← runAll (config.transforms mode width) listing g
        return (.ok (some { parsed := listing, steps, result }), g)

theorem apply_eq (transform : Transform) (listing : Listing) (g : G) :
    apply transform listing g = .ok (transform.apply listing g) := by
  cases transform with
  | reorder mode => rw [apply, reorder_eq]; rfl
  | padAllocations bound width => rw [apply, padAllAllocations_eq]; rfl
  | padFrames bound => rw [apply, padAllFrames_eq]; rfl
  | shuffleSegment segment => rw [apply, shuffleSegments_eq]; rfl

theorem runAll_eq (transforms : List Transform) (listing : Listing) (g : G) :
    runAll transforms listing g = .ok (Transform.runAll transforms listing g) := by
  induction transforms generalizing listing g with
  | nil => rfl
  | cons transform rest ih =>
      rw [runAll, apply_eq]
      simp only [bind, Except.bind, ih]
      rfl

/-- A run ends without a fault, whatever is randomized: no position is outside its buffer, no range
    drawn from is empty, no section is lost and no loop goes on for ever. -/
theorem randomize_without_fault (config : Config) (mode : StructureMode) (width : PointerWidth)
    (text : String) (g : G) :
    randomize config mode width text g = .ok (config.randomize mode width text g) := by
  rw [randomize, Config.randomize]
  split
  next => rfl
  next active =>
    cases config.validate with
    | error failure => rfl
    | ok valid =>
        simp only [parse_eq, bind, Except.bind]
        cases Listing.parse text with
        | error cause => rfl
        | ok listing =>
            simp only [runAll_eq]
            rfl

end AsmLayout.Checked
