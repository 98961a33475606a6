import AsmLayout.Proofs.Listing.Rendering

/-! # A text parsed and rendered

Apart from separators, location directives and blanks at the ends of lines, the text of a parsed
listing has the lines that were parsed, in order. One line is added to them when the first section
has nothing but location directives: the empty piece that is left of it still stands on a line.
-/

namespace AsmLayout

namespace Listing

theorem flatMap_writtenLines (sections : List Section) :
    sections.flatMap (·.writtenLines) =
      ((sections.flatMap (·.lines)).map (·.content)).filter fun content =>
        !Section.isLocation ⟨content, 0⟩ := by
  induction sections with
  | nil => rfl
  | cons sec rest ih =>
      rw [List.flatMap_cons, ih, List.flatMap_cons, List.map_append, List.filter_append,
        Section.writtenLines, List.filter_map (l := sec.lines)]
      rfl

theorem Sectioned.writtenLines_opened {dialect : Dialect} {sections : List Section}
    (sectioned : Sectioned dialect sections) {sec : Section} (member : sec ∈ sections.tail) :
    ∃ content rest, sec.writtenLines = content :: rest ∧
      dialect.splitsBefore ⟨content, 0⟩ = true := by
  obtain ⟨line, rest, lines, splits⟩ := sectioned.opened member
  have kept := Section.isLocation_of_splitsBefore splits
  refine ⟨line.content, (rest.filter (!Section.isLocation ·)).map (·.content), ?_, ?_⟩
  · rw [Section.writtenLines, lines, List.filter_cons_of_pos (by rw [kept]; rfl), List.map_cons]
  · rwa [← (TellsLandmark.splitsBefore dialect).numberless line 0] at splits

/-- Whether the first section has nothing but location directives. -/
def isBare (listing : Listing) : Bool :=
  listing.sections.head?.any fun sec => sec.lines.all Section.isLocation

/-- Only the first section can be left without a line. -/
theorem Partitioned.flatMap_textLines {listing : Listing} (partitioned : listing.Partitioned) :
    listing.sections.flatMap (·.textLines) =
      (if listing.isBare then [""] else []) ++ listing.sections.flatMap (·.writtenLines) := by
  have sectioned := partitioned.sectioned
  rw [isBare]
  cases sections : listing.sections with
  | nil => rfl
  | cons first rest =>
      rw [sections] at sectioned
      have later : rest.flatMap (·.textLines) = rest.flatMap (·.writtenLines) := by
        rw [List.flatMap_def, List.flatMap_def]
        congr 1
        apply List.map_congr_left
        intro sec member
        obtain ⟨content, others, written, -⟩ := sectioned.writtenLines_opened member
        rw [Section.textLines, written]
        rfl
      have none : first.writtenLines.isEmpty = first.lines.all Section.isLocation := by
        rw [Bool.eq_iff_iff]
        simp [Section.writtenLines]
      rw [List.flatMap_cons, List.flatMap_cons, later, List.head?_cons, Option.any_some, ← none,
        ← List.append_assoc, Section.textLines]
      cases written : first.writtenLines.isEmpty with
      | false => simp
      | true => simp [List.isEmpty_iff.mp written]

theorem lines_of_parse {text : String} {listing : Listing} (parsed : parse text = .ok listing) :
    listing.lines.map (·.content) =
      (Text.lines text.toList).map fun line => String.ofList (Text.trimEnd line) := by
  rw [lines_of_ofLines parsed, Line.content_numbered]

theorem oneLine_of_parse {text : String} {listing : Listing} (parsed : parse text = .ok listing) :
    ∀ line ∈ listing.lines, Text.OneLine line.chars := by
  intro line member
  have content : line.content ∈ listing.lines.map (·.content) := List.mem_map_of_mem member
  rw [lines_of_parse parsed] at content
  obtain ⟨source, listed, same⟩ := List.mem_map.mp content
  rw [Line.chars, ← same, String.toList_ofList]
  exact Text.oneLine_trimEnd listed

/-- Rendering gives the lines of the parsed text back, behind one empty line when the first section
    has nothing but location directives. -/
theorem lines_render_parse {text : String} {listing : Listing} (parsed : parse text = .ok listing) :
    let given := (Text.lines text.toList).map fun line => String.ofList (Text.trimEnd line)
    let found := (Text.lines listing.render.toList).map String.ofList
    found.filter (· != separator) =
      (if listing.isBare then [""] else []) ++
        given.filter fun content => content != separator && !Section.isLocation ⟨content, 0⟩ := by
  intro given found
  have partitioned : listing.Partitioned := partitioned_of_ofLines parsed
  have split : found = listing.textLines := by
    have unbroken : ∀ line ∈ listing.lines, '\n' ∉ line.chars :=
      fun line member => (oneLine_of_parse parsed line member).unbroken
    simp only [found, lines_render (sections_ne_nil_of_detect (detect_of_ofLines parsed)) unbroken, List.map_map,
      Function.comp_def, String.ofList_toList, List.map_id']
  have blank : [""].filter (· != separator) = [""] := by decide
  rw [split, textLines, filter_flatten_separated (by simp), ← List.flatMap_def,
    partitioned.flatMap_textLines, List.filter_append, flatMap_writtenLines, List.filter_filter,
    ← lines, lines_of_parse parsed]
  split
  · rw [blank]
  · rfl

/-- Blanks at ends of lines go, and so do a location directive and a separator; the blank lines at
    the end stay. -/
theorem lines_render_parse_with_blank_tail :
    let text := "\t.file \"a.c\" \r\n/****/\n\t.text\nf:\n\t.loc 1 1\n\t.cfi_startproc\t\n \n\n"
    let listing : Listing := ⟨.gcc, partition .gcc (Line.numbered 0 ["\t.file \"a.c\"", "/****/",
      "\t.text", "f:", "\t.loc 1 1", "\t.cfi_startproc", "", ""])⟩
    parse text = .ok listing ∧ ((Text.lines listing.render.toList).map String.ofList).filter
      (· != separator) = ["\t.file \"a.c\"", "\t.text", "f:", "\t.cfi_startproc", "", ""] := by
  intro text listing
  have parsed : parse text = .ok listing := by decide +kernel
  refine ⟨parsed, (lines_render_parse parsed).trans ?_⟩
  decide +kernel

/-- An empty line comes in, although all lines that are written of the text are solid. -/
theorem empty_line_rendered :
    let text := "\t.loc 1 1\n\t.text\nf:\n\t.cfi_startproc\n"
    let listing : Listing := ⟨.gcc, partition .gcc (Line.numbered 0 ["\t.loc 1 1", "\t.text", "f:",
      "\t.cfi_startproc"])⟩
    let given := (Text.lines text.toList).map fun line => String.ofList (Text.trimEnd line)
    let found := (Text.lines listing.render.toList).map String.ofList
    parse text = .ok listing ∧ listing.render = "\n/****/\n\t.text\nf:\n\t.cfi_startproc\n" ∧
    found.filter (· != separator) = ["", "\t.text", "f:", "\t.cfi_startproc"] ∧
    (given.filter fun content => content != separator && !Section.isLocation ⟨content, 0⟩) =
      ["\t.text", "f:", "\t.cfi_startproc"] := by
  decide +kernel

end Listing

end AsmLayout
