import AsmLayout.Proofs.Listing.RoundTrip

/-! # Rendered listings parsed again

Neither what rendering drops nor what it puts in is a marker, a label or a line that opens a section,
except that an empty line may stand for a first section of which nothing is written. So the text of a
listing is cut again where the listing is, and its sections are of the same kinds.
-/

namespace AsmLayout

/-- A property of lines that asks for their text alone, and that rendering neither brings in nor
    takes away. -/
structure SurvivesRendering (property : Line → Bool) : Prop where
  numberless : ∀ line number, property { line with number } = property line
  location : ∀ line, Section.isLocation line = true → property line = false
  blank : property ⟨"", 0⟩ = false
  separator : property ⟨Listing.separator, 0⟩ = false

theorem head?_trimStart_of_isLocation {line : Line} (location : Section.isLocation line = true) :
    (Text.trimStart line.chars).head? = some '.' := by
  rw [← Text.head?_normalize]
  obtain ⟨rest, whole⟩ := List.isPrefixOf_iff_prefix.mp location
  rw [← Line.normalized, ← whole]
  rfl

namespace SurvivesRendering

variable {p q : Line → Bool}

theorem or (left : SurvivesRendering p) (right : SurvivesRendering q) :
    SurvivesRendering fun line => p line || q line where
  numberless line number := by rw [left.numberless, right.numberless]
  location line found := by rw [left.location line found, right.location line found, Bool.or_false]
  blank := by rw [left.blank, right.blank, Bool.or_false]
  separator := by rw [left.separator, right.separator, Bool.or_false]

theorem isFunctionLabel : SurvivesRendering Line.isFunctionLabel where
  numberless _ _ := rfl
  location line found := by
    have dot := head?_trimStart_of_isLocation found
    rw [Line.isFunctionLabel, Line.label?]
    cases line.isLabel with
    | false => rfl
    | true =>
        cases front : Text.trimStart line.chars with
        | nil => simp [front] at dot
        | cons c rest =>
            rw [front, List.head?_cons, Option.some.injEq] at dot
            simp [dot]
  blank := by decide +kernel
  separator := by decide +kernel

theorem isBeginMarker : SurvivesRendering Dialect.isBeginMarker where
  numberless _ _ := rfl
  location line found := by
    have dot := head?_trimStart_of_isLocation found
    rw [Dialect.isBeginMarker]
    split
    · rename_i rest hash
      rw [hash, Text.trimStart, List.dropWhile_cons_of_neg (by decide), List.head?_cons] at dot
      contradiction
    · rfl
  blank := by decide
  separator := by decide

theorem isFunctionMarker (dialect : Dialect) : SurvivesRendering dialect.isFunctionMarker where
  numberless _ _ := by cases dialect <;> rfl
  location line found := by
    cases dialect with
    | libfirm => exact isBeginMarker.location line found
    | gcc => rfl
  blank := by cases dialect <;> rfl
  separator := by cases dialect <;> decide

theorem isCallFrame : SurvivesRendering Dialect.isCallFrame where
  numberless _ _ := rfl
  location line found := Line.startsWith_eq_false_of_startsWith found (by decide)
  blank := by decide +kernel
  separator := by decide +kernel

theorem any_textLines (survives : SurvivesRendering p) (sec : Section) :
    sec.textLines.any (fun content => p ⟨content, 0⟩) = sec.lines.any p := by
  have written : sec.writtenLines.any (fun content => p ⟨content, 0⟩) = sec.lines.any p := by
    rw [Section.writtenLines, List.any_map, List.any_filter, Bool.eq_iff_iff, List.any_eq_true,
      List.any_eq_true]
    refine exists_congr fun line => and_congr_right fun _ => ?_
    rw [Function.comp_apply, ← survives.numberless line 0, Bool.and_eq_true, and_iff_right_of_imp]
    intro holds
    cases location : Section.isLocation line with
    | false => rfl
    | true => rw [survives.numberless, survives.location line location] at holds; contradiction
  rw [Section.textLines]
  split
  · rename_i none
    rw [← written, List.isEmpty_iff.mp none, List.any_cons, survives.blank]
    rfl
  · exact written

theorem any_append_separator (survives : SurvivesRendering p) (contents : List String) (last : Prop)
    [Decidable last] :
    (contents ++ if last then [Listing.separator] else []).any (fun content => p ⟨content, 0⟩) =
      contents.any fun content => p ⟨content, 0⟩ := by
  split
  · rw [List.any_append, List.any_cons, survives.separator, List.any_nil, Bool.or_false, Bool.or_false]
  · rw [List.append_nil]

theorem any_flatten_textLines (survives : SurvivesRendering p) (listing : Listing) :
    listing.textLines.any (fun content => p ⟨content, 0⟩) = listing.lines.any p := by
  have kept (contents : List String) : contents.any (fun content => p ⟨content, 0⟩) =
      (contents.filter fun content => content != Listing.separator).any fun content =>
        p ⟨content, 0⟩ := by
    rw [List.any_filter]
    congr 1
    funext content
    by_cases closing : content = Listing.separator
    · rw [closing, survives.separator, Bool.and_false]
    · simp [closing]
  rw [kept, Listing.textLines, Listing.filter_flatten_separated (by simp), ← kept, List.any_flatten,
    List.any_map, Listing.lines, List.any_flatMap]
  congr 1
  funext sec
  exact survives.any_textLines sec

end SurvivesRendering

namespace Listing

theorem splitsBefore_separator (dialect : Dialect) :
    dialect.splitsBefore ⟨separator, 0⟩ = false := by
  cases dialect <;> decide +kernel

theorem detect_of_any_eq {xs ys : List Line} {dialect : Dialect}
    (told : Dialect.detect xs = .ok dialect)
    (markers : ys.any Dialect.isBeginMarker = xs.any Dialect.isBeginMarker)
    (frames : ys.any Dialect.isCallFrame = xs.any Dialect.isCallFrame) :
    Dialect.detect ys = .ok dialect := by
  rw [Dialect.detect] at told
  rw [Dialect.detect, markers, frames]
  split
  · rename_i marked
    rwa [if_pos marked] at told
  · rename_i unmarked
    rw [if_neg unmarked] at told
    split
    · rename_i framed
      rwa [if_pos framed] at told
    · rename_i unframed
      rw [if_neg unframed] at told
      contradiction

theorem any_numbered {p : Line → Bool} (tells : TellsLandmark p) (contents : List String) :
    (Line.numbered 0 contents).any p = contents.any fun content => p ⟨content, 0⟩ := by
  conv_rhs => rw [← Line.content_numbered 0 contents, List.any_map]
  congr 1
  funext line
  exact (tells.numberless line 0).symm

/-- A listing whose text can be parsed to the same structure. -/
structure Readable (listing : Listing) : Prop where
  partitioned : listing.Partitioned
  detected : Dialect.detect listing.lines = .ok listing.dialect
  oneLine : ∀ line ∈ listing.lines, Text.OneLine line.chars

theorem readable_of_parse {text : String} {listing : Listing} (parsed : parse text = .ok listing) :
    listing.Readable where
  partitioned := partitioned_of_ofLines parsed
  detected := detect_of_ofLines parsed
  oneLine := oneLine_of_parse parsed

namespace Readable

variable {listing : Listing}

theorem sections_ne_nil (readable : listing.Readable) : listing.sections ≠ [] :=
  sections_ne_nil_of_detect readable.detected

theorem isCut_separated (readable : listing.Readable) :
    IsCut (fun content => listing.dialect.splitsBefore ⟨content, 0⟩)
      (separated (listing.sections.map (·.textLines))) := by
  have sectioned := readable.partitioned.sectioned
  refine ⟨?_, ?_, ?_⟩
  · intro block listed
    obtain ⟨own, member, closing, rfl, -⟩ := mem_separated listed
    obtain ⟨sec, -, rfl⟩ := List.mem_map.mp member
    exact List.append_ne_nil_of_left_ne_nil sec.textLines_ne_nil _
  · intro block listed content inner
    obtain ⟨own, member, closing, rfl, closes⟩ := mem_separated listed
    obtain ⟨sec, there, rfl⟩ := List.mem_map.mp member
    rw [List.tail_append_of_ne_nil sec.textLines_ne_nil] at inner
    rcases List.mem_append.mp inner with own | behind
    · obtain ⟨line, later, rfl⟩ := Section.mem_tail_textLines own
      rw [← sectioned.inside there later]
      exact ((TellsLandmark.splitsBefore listing.dialect).numberless line 0)
    · rw [closes content behind]
      exact splitsBefore_separator listing.dialect
  · intro block listed
    rw [tail_separated, ← List.map_tail] at listed
    obtain ⟨own, member, closing, rfl, -⟩ := mem_separated listed
    obtain ⟨sec, there, rfl⟩ := List.mem_map.mp member
    obtain ⟨content, rest, written, splits⟩ := sectioned.writtenLines_opened there
    rw [Section.textLines, written]
    exact splits

theorem contents_partition (readable : listing.Readable) :
    (partition listing.dialect (Line.numbered 0 listing.textLines)).map (·.contents) =
      separated (listing.sections.map (·.textLines)) := by
  have textual : listing.dialect.splitsBefore =
      fun line => listing.dialect.splitsBefore ⟨line.content, 0⟩ := by
    funext line
    exact ((TellsLandmark.splitsBefore listing.dialect).numberless line 0).symm
  calc
    (partition listing.dialect (Line.numbered 0 listing.textLines)).map (·.contents)
      = (runs listing.dialect.splitsBefore (Line.numbered 0 listing.textLines)).map
          (·.map (·.content)) := by rw [partition, List.map_map]; rfl
    _ = runs (fun content => listing.dialect.splitsBefore ⟨content, 0⟩) listing.textLines := by
        rw [textual, ← runs_map (fun content => listing.dialect.splitsBefore ⟨content, 0⟩),
          Line.content_numbered]
    _ = separated (listing.sections.map (·.textLines)) := by
        rw [textLines, runs_flatten readable.isCut_separated]

theorem parse_render (readable : listing.Readable) :
    parse listing.render = .ok ⟨listing.dialect,
      partition listing.dialect (Line.numbered 0 listing.textLines)⟩ := by
  rw [Listing.parse_render readable.sections_ne_nil readable.oneLine]
  refine ofLines_of_detect (detect_of_any_eq readable.detected ?_ ?_)
  · rw [any_numbered .isBeginMarker]
    exact SurvivesRendering.isBeginMarker.any_flatten_textLines listing
  · rw [any_numbered .isCallFrame]
    exact SurvivesRendering.isCallFrame.any_flatten_textLines listing

/-- The sections of the text are those of the listing: the kinds are the same, and the lines are those
    that are written, with a separator behind them. -/
theorem section_reparsed (readable : listing.Readable) {place : Nat} {sec : Section}
    (there : listing.sections[place]? = some sec) :
    ∃ sec', (partition listing.dialect (Line.numbered 0 listing.textLines))[place]? = some sec' ∧
      sec'.kind = sec.kind ∧ sec'.contents =
        sec.textLines ++ if place + 1 < listing.sections.length then [separator] else [] := by
  have block := congrArg (·[place]?) readable.contents_partition
  simp only [List.getElem?_map, getElem?_separated, there, Option.map_some, List.length_map] at block
  obtain ⟨sec', stands, contents⟩ := Option.map_eq_some_iff.mp block
  refine ⟨sec', stands, ?_, contents⟩
  obtain ⟨lines, -, rfl⟩ := List.mem_map.mp (List.mem_of_getElem? stands)
  have made := readable.partitioned.sectioned.made sec (List.mem_of_getElem? there)
  have survives := SurvivesRendering.isFunctionLabel.or (.isFunctionMarker listing.dialect)
  have functions : Section.holdsFunction listing.dialect lines =
      Section.holdsFunction listing.dialect sec.lines := by
    have written := survives.any_textLines sec
    rw [← survives.any_append_separator _ (place + 1 < listing.sections.length), ← contents,
      Section.contents, List.any_map] at written
    refine Eq.trans ?_ written
    rw [Section.holdsFunction]
    congr 1
    funext line
    exact (survives.numberless line 0).symm
  rw [made, Section.ofLines, Section.ofLines, functions]

end Readable

end Listing

end AsmLayout
