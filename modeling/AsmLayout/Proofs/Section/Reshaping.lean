import AsmLayout.Proofs.Landmarks
import AsmLayout.Section

/-! # Reshaped sections

An edit reshapes a section when it keeps the landmarks of its lines; kind and dialect are not the
edit's business. Numbers do not matter here: sections of the same text differ in them at most.
-/

namespace AsmLayout

theorem Line.content_renumber (start : Nat) (lines : List Line) :
    (Line.renumber start lines).map (·.content) = lines.map (·.content) := by
  induction lines generalizing start with
  | nil => rfl
  | cons line rest ih => rw [Line.renumber, List.map_cons, List.map_cons, ih]

namespace Section

/-- What an edit inside a section keeps. -/
structure Reshaped (before after : Section) : Prop where
  dialect : after.dialect = before.dialect
  kind : after.kind = before.kind
  lines : KeepsLandmarks before.lines after.lines

theorem Reshaped.refl (sec : Section) : Reshaped sec sec := ⟨rfl, rfl, .refl _⟩

theorem reshaped_renumber (start : Nat) (sec : Section) : Reshaped sec (sec.renumber start) :=
  ⟨rfl, rfl, .renumber start sec.lines⟩

theorem reshaped_edit {sec : Section} {lines : List Line} (keeps : KeepsLandmarks sec.lines lines) :
    Reshaped sec (sec.edit lines) :=
  ⟨rfl, rfl, keeps.trans (.renumber sec.firstNumber lines)⟩

theorem Reshaped.eq_ofLines {before after : Section} {dialect : Dialect}
    (reshaped : Reshaped before after) (made : before = ofLines dialect before.lines) :
    after = ofLines dialect after.lines := by
  have functions : holdsFunction dialect after.lines = holdsFunction dialect before.lines :=
    reshaped.lines.any_eq (TellsLandmark.isFunctionLabel.or (.isFunctionMarker dialect))
  have kind : after.kind = (ofLines dialect after.lines).kind := by
    rw [reshaped.kind, made, ofLines, ofLines, functions]
  have conventions : after.dialect = dialect := by rw [reshaped.dialect, made, ofLines]
  calc
    after = ⟨after.kind, after.dialect, after.lines⟩ := rfl
    _ = ofLines dialect after.lines := by rw [kind, conventions]; rfl

/-- The texts of the lines of a section. -/
def contents (sec : Section) : List String :=
  sec.lines.map (·.content)

/-- Two sections that differ in the numbers of their lines at most. -/
structure SameText (sec former : Section) : Prop where
  kind : sec.kind = former.kind
  dialect : sec.dialect = former.dialect
  contents : sec.contents = former.contents

theorem SameText.refl (sec : Section) : SameText sec sec := ⟨rfl, rfl, rfl⟩

theorem SameText.length {sec former : Section} (same : sec.SameText former) :
    sec.lines.length = former.lines.length := by
  simpa only [Section.contents, List.length_map] using congrArg List.length same.contents

theorem renumber_sameText (start : Nat) (sec : Section) : SameText (sec.renumber start) sec :=
  ⟨rfl, rfl, Line.content_renumber start sec.lines⟩

theorem contents_edit (sec : Section) (lines : List Line) :
    (sec.edit lines).contents = lines.map (·.content) :=
  Line.content_renumber sec.firstNumber lines

end Section

end AsmLayout
