import AsmLayout.Command.Outcome
import AsmLayout.Journal.Entries
import AsmLayout.Listing

/-! # The command that shows sections

It prints the dialect of a file and one line for each section.
-/

namespace AsmLayout.Command

def kindText : SectionKind → String
  | .plain => "plain"
  | .function => "function"

/-- The row of a section: its position, kind, line numbers and first line that is not blank. -/
def sectionRow (position : Nat) (sec : Section) : String :=
  let (first, last) := sec.span
  let text := match sec.firstText? with
    | some line => String.ofList line.normalized
    | none => ""
  Text.padLeft 4 (toString position) ++ "  " ++ Text.padRight 8 (kindText sec.kind) ++ "  " ++
    Text.padLeft 6 (toString first) ++ ".." ++ Text.padRight 6 (toString last) ++ "  " ++ text ++
    "\n"

def sectionTable (listing : Listing) : String :=
  "dialect: " ++ listing.dialect.name ++ "\n" ++
    String.join (listing.sections.zipIdx.map fun (sec, position) => sectionRow position sec)

def showSections (input : String) (files : FileSystem) : Outcome :=
  match files.readText input with
  | .error cause =>
    { result := .error (.source (.fileRead input cause)), stdout := "", entries := [], files }
  | .ok text =>
    match Listing.parse text with
    | .error cause => { result := .error (.source cause), stdout := "", entries := [], files }
    | .ok listing =>
      { result := .ok (), stdout := sectionTable listing, entries := [Journal.ofListing listing],
        files }

end AsmLayout.Command
