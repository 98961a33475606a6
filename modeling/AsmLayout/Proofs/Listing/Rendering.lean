import AsmLayout.Proofs.Lines
import AsmLayout.Proofs.Listing.Partition

/-! # The lines of a rendered listing

A section takes up the lines that are written of it, or an empty one where none is written, and a
separator stands behind every section but the last. The first section of a parsed listing is the only
one of which nothing may be written, since a line that opens a section always is.
-/

namespace AsmLayout

namespace Line

theorem startsWith_eq_false_of_startsWith {line : Line} {found other : String}
    (starts : line.startsWith found = true)
    (differ : (found.toList.isPrefixOf other.toList || other.toList.isPrefixOf found.toList) = false) :
    line.startsWith other = false := by
  obtain ⟨short, long⟩ := Bool.or_eq_false_iff.mp differ
  apply eq_false_of_ne_true
  intro both
  rcases List.prefix_or_prefix_of_prefix (List.isPrefixOf_iff_prefix.mp starts)
    (List.isPrefixOf_iff_prefix.mp both) with ahead | ahead
  · rw [List.isPrefixOf_iff_prefix.mpr ahead] at short
    contradiction
  · rw [List.isPrefixOf_iff_prefix.mpr ahead] at long
    contradiction

theorem normalized_eq_nil_of_isBlank {line : Line} (blank : line.isBlank = true) :
    line.normalized = [] := by
  rw [normalized, Text.normalize, (Text.words_eq_nil_iff line.chars).mpr blank,
    List.intercalate_nil]

end Line

theorem Section.isLocation_of_splitsBefore {dialect : Dialect} {line : Line}
    (splits : dialect.splitsBefore line = true) : isLocation line = false := by
  cases dialect with
  | libfirm =>
      rw [isLocation, Line.startsWith, Line.normalized_eq_nil_of_isBlank splits]
      decide
  | gcc =>
      rcases Bool.or_eq_true_iff.mp splits with bare | segment
      · rw [isLocation, Line.startsWith, beq_iff_eq.mp bare]
        decide
      · obtain ⟨name, listed, starts⟩ := List.any_eq_true.mp (Bool.and_eq_true_iff.mp segment).2
        simp only [Line.segmentNames, List.mem_cons, List.not_mem_nil, or_false] at listed
        rcases Bool.or_eq_true_iff.mp starts with short | long
        · rcases listed with rfl | rfl | rfl | rfl <;>
            exact Line.startsWith_eq_false_of_startsWith short (by decide)
        · rcases listed with rfl | rfl | rfl | rfl <;>
            exact Line.startsWith_eq_false_of_startsWith long (by decide)

namespace Section

def textLines (sec : Section) : List String :=
  if sec.writtenLines.isEmpty then [""] else sec.writtenLines

theorem textLines_ne_nil (sec : Section) : sec.textLines ≠ [] := by
  rw [textLines]
  split
  · exact List.cons_ne_nil _ _
  · rename_i written
    exact fun none => written (List.isEmpty_iff.mpr none)

theorem toList_render (sec : Section) :
    sec.render.toList = Text.unlines (sec.textLines.map String.toList) := by
  rw [render, String.toList_intercalate, textLines]
  split
  · rename_i none
    rw [List.isEmpty_iff.mp none]
    rfl
  · rfl

theorem mem_textLines {sec : Section} {content : String} (listed : content ∈ sec.textLines) :
    content = "" ∨ ∃ line ∈ sec.lines, line.content = content := by
  rw [textLines] at listed
  split at listed
  · exact .inl (List.mem_singleton.mp listed)
  · obtain ⟨line, kept, same⟩ := List.mem_map.mp listed
    exact .inr ⟨line, (List.mem_filter.mp kept).1, same⟩

theorem mem_tail_textLines {sec : Section} {content : String} (listed : content ∈ sec.textLines.tail) :
    ∃ line ∈ sec.lines.tail, line.content = content := by
  rw [textLines] at listed
  split at listed
  · contradiction
  · rw [writtenLines, ← List.map_tail] at listed
    obtain ⟨line, kept, same⟩ := List.mem_map.mp listed
    refine ⟨line, ?_, same⟩
    cases lines : sec.lines with
    | nil => simp [lines] at kept
    | cons first rest =>
        rw [lines, List.filter_cons] at kept
        split at kept
        · exact List.mem_of_mem_filter kept
        · exact List.mem_of_mem_filter (List.mem_of_mem_tail kept)

end Section

namespace Listing

/-- Blocks with a separator behind each but the last. -/
def separated : List (List String) → List (List String)
  | [] => []
  | [block] => [block]
  | block :: next :: rest => (block ++ [separator]) :: separated (next :: rest)

def textLines (listing : Listing) : List String :=
  (separated (listing.sections.map (·.textLines))).flatten

theorem length_separated (blocks : List (List String)) :
    (separated blocks).length = blocks.length := by
  fun_induction separated blocks with
  | case1 => rfl
  | case2 => rfl
  | case3 block next rest ih =>
      rw [List.length_cons, ih]
      rfl

theorem getElem?_separated (blocks : List (List String)) (place : Nat) :
    (separated blocks)[place]? =
      blocks[place]?.map (· ++ if place + 1 < blocks.length then [separator] else []) := by
  fun_induction separated blocks generalizing place with
  | case1 => rfl
  | case2 block => cases place <;> simp
  | case3 block next rest ih =>
      cases place with
      | zero => simp
      | succ place => simpa using ih place

theorem tail_separated (blocks : List (List String)) :
    (separated blocks).tail = separated blocks.tail := by
  fun_cases separated blocks <;> rfl

theorem mem_separated {blocks : List (List String)} {block : List String}
    (listed : block ∈ separated blocks) :
    ∃ own ∈ blocks, ∃ closing, block = own ++ closing ∧ ∀ content ∈ closing, content = separator := by
  obtain ⟨place, inside, there⟩ := List.getElem_of_mem listed
  have found := getElem?_separated blocks place
  rw [List.getElem?_eq_getElem inside, there, eq_comm, Option.map_eq_some_iff] at found
  obtain ⟨own, stands, rfl⟩ := found
  refine ⟨own, List.mem_of_getElem? stands, _, rfl, ?_⟩
  intro content member
  split at member
  · exact List.mem_singleton.mp member
  · contradiction

theorem filter_flatten_separated {keep : String → Bool} (dropped : keep separator = false)
    (blocks : List (List String)) :
    (separated blocks).flatten.filter keep = blocks.flatten.filter keep := by
  fun_induction separated blocks with
  | case1 => rfl
  | case2 => rfl
  | case3 block next rest ih =>
      rw [List.flatten_cons, List.append_assoc, List.filter_append, List.singleton_append,
        List.filter_cons_of_neg (by simp [dropped]), ih, ← List.filter_append, ← List.flatten_cons]

theorem unlines_separated {blocks : List (List String)} (filled : ∀ block ∈ blocks, block ≠ []) :
    Text.unlines ((separated blocks).flatten.map String.toList) =
      ("\n" ++ separator ++ "\n").toList.intercalate
        (blocks.map fun block => Text.unlines (block.map String.toList)) := by
  fun_induction separated blocks with
  | case1 => rfl
  | case2 block => simp
  | case3 block next rest ih =>
      have own : block ≠ [] := filled block (List.mem_cons_self ..)
      have later := ih fun other member => filled other (List.mem_cons_of_mem _ member)
      have behind : (separated (next :: rest)).flatten ≠ [] := by
        have full : next ≠ [] := filled next (List.mem_cons_of_mem _ (List.mem_cons_self ..))
        cases rest <;> simp [separated, full]
      rw [List.flatten_cons, List.map_append, Text.unlines_append (by simp) (by simpa using behind),
        List.map_append, Text.unlines_append (by simpa using own) (by simp), later]
      simp only [List.map_cons, List.map_nil, List.intercalate_cons_cons, Text.unlines_singleton,
        String.toList_append, List.append_assoc, List.cons_append]
      rfl

theorem toList_render (listing : Listing) :
    listing.render.toList = Text.unlines (listing.textLines.map String.toList) ++ ['\n'] := by
  have filled : ∀ block ∈ listing.sections.map (·.textLines), block ≠ [] := by
    intro block member
    obtain ⟨sec, -, rfl⟩ := List.mem_map.mp member
    exact sec.textLines_ne_nil
  have each : listing.sections.map (fun sec => sec.render.toList) =
      listing.sections.map fun sec => Text.unlines (sec.textLines.map String.toList) :=
    List.map_congr_left fun sec _ => sec.toList_render
  rw [textLines, unlines_separated filled, render, String.toList_append, String.toList_intercalate,
    List.map_map, List.map_map, Function.comp_def, Function.comp_def, each]
  rfl

theorem forall_textLines {listing : Listing} {P : String → Prop} (blank : P "")
    (closing : P separator) (all : ∀ line ∈ listing.lines, P line.content) :
    ∀ content ∈ listing.textLines, P content := by
  intro content listed
  obtain ⟨block, stands, inside⟩ := List.mem_flatten.mp listed
  obtain ⟨own, member, behind, rfl, closes⟩ := mem_separated stands
  obtain ⟨sec, there, rfl⟩ := List.mem_map.mp member
  rcases List.mem_append.mp inside with own | last
  · rcases Section.mem_textLines own with rfl | ⟨line, written, rfl⟩
    · exact blank
    · exact all line (List.mem_flatMap.mpr ⟨sec, there, written⟩)
  · rw [closes content last]
    exact closing

theorem textLines_ne_nil {listing : Listing} (nonempty : listing.sections ≠ []) :
    listing.textLines ≠ [] := by
  rw [textLines]
  cases sections : listing.sections with
  | nil => exact absurd sections nonempty
  | cons first rest => cases rest <;> simp [separated, Section.textLines_ne_nil]

theorem lines_render {listing : Listing} (nonempty : listing.sections ≠ [])
    (unbroken : ∀ line ∈ listing.lines, '\n' ∉ line.chars) :
    Text.lines listing.render.toList = listing.textLines.map String.toList := by
  have whole : ∀ content ∈ listing.textLines, '\n' ∉ content.toList :=
    forall_textLines (P := fun content => '\n' ∉ content.toList) (by decide) (by decide) unbroken
  rw [toList_render]
  apply Text.lines_unlines
  · simpa using textLines_ne_nil nonempty
  · intro line member
    obtain ⟨content, listed, rfl⟩ := List.mem_map.mp member
    exact whole content listed

theorem parse_render {listing : Listing} (nonempty : listing.sections ≠ [])
    (oneLine : ∀ line ∈ listing.lines, Text.OneLine line.chars) :
    parse listing.render = ofLines listing.textLines := by
  have trimmed : ∀ content ∈ listing.textLines, Text.trimEnd content.toList = content.toList :=
    forall_textLines (P := fun content => Text.trimEnd content.toList = content.toList) (by decide)
      (by decide) fun line member => (oneLine line member).trimmed
  have same : listing.textLines.map (fun content => String.ofList (Text.trimEnd content.toList)) =
      listing.textLines.map id := by
    apply List.map_congr_left
    intro content listed
    rw [trimmed content listed, String.ofList_toList, id]
  rw [parse, lines_render nonempty fun line member => (oneLine line member).unbroken, List.map_map,
    Function.comp_def, same, List.map_id]

end Listing

end AsmLayout
