import AsmLayout.Proofs.Section.Objects

/-! # The directive above an object

A line belongs to the part of the output that the nearest directive above it names. A shuffle keeps
that directive wherever the extent in question holds none but its opening line, or others that read
like it. An extent only ends at segments, so it may hold other directives, and objects that a shuffle
puts in front of them leave their part of the output.
-/

namespace AsmLayout

theorem lastDirective?_congr {xs ys : List Line} (same : xs.map (·.content) = ys.map (·.content)) :
    lastDirective? xs = lastDirective? ys := by
  rw [lastDirective?_eq, lastDirective?_eq, same]

theorem isDirective_congr {line other : Line} (same : line.content = other.content) :
    line.isDirective = other.isDirective := by
  cases line
  cases other
  cases same
  rfl

theorem exists_of_lastDirective? {lines : List Line} {content : String}
    (last : lastDirective? lines = some content) :
    ∃ line ∈ lines, line.isDirective = true ∧ line.content = content := by
  obtain ⟨line, found, same⟩ := Option.map_eq_some_iff.mp last
  obtain ⟨listed, directs⟩ := List.mem_filter.mp (List.mem_of_getLast? found)
  exact ⟨line, listed, directs, same⟩

theorem lastDirective?_behind {opening : Line} (directs : opening.isDirective = true)
    (front back : List Line) :
    lastDirective? (front ++ opening :: back) =
      (lastDirective? back).or (some opening.content) := by
  have own : lastDirective? [opening] = some opening.content := by
    rw [lastDirective?, List.filter_cons_of_pos directs]
    rfl
  rw [List.append_cons, lastDirective?_append, lastDirective?_append, own, Option.some_or]

theorem lastDirective?_of_uniform {opening : Line} {inner : List Line}
    (uniform : ∀ line ∈ inner, line.isDirective = true → line.content = opening.content) :
    (lastDirective? inner).or (some opening.content) = some opening.content := by
  cases last : lastDirective? inner with
  | none => rfl
  | some content =>
      obtain ⟨line, listed, directs, rfl⟩ := exists_of_lastDirective? last
      rw [uniform line listed directs, Option.some_or]

theorem isDirective_of_isOpenedBy {segment : DataSegment} {line : Line}
    (opens : segment.isOpenedBy line = true) : line.isDirective = true := by
  obtain ⟨statement, spelled⟩ := Bool.and_eq_true_iff.mp opens
  have named : segment.name ∈ Line.segmentNames := by cases segment <;> decide
  have segmental (starts : (line.startsWith ("." ++ segment.name) ||
      line.startsWith (".section ." ++ segment.name)) = true) : line.isDirective = true := by
    have segment : line.isSegment = true :=
      Bool.and_eq_true_iff.mpr ⟨statement, List.any_eq_true.mpr ⟨_, named, starts⟩⟩
    rw [Line.isDirective, segment, Bool.true_or]
  rcases Bool.or_eq_true_iff.mp spelled with either | dotted
  · rcases Bool.or_eq_true_iff.mp either with bare | undotted
    · exact segmental (by rw [bare, Bool.true_or])
    · -- The name stands behind the mnemonic, which alone makes this a directive.
      have starts : ".section".toList ++ ' ' :: segment.name.toList <+: line.normalized := by
        have := List.isPrefixOf_iff_prefix.mp undotted
        rwa [String.toList_append] at this
      obtain ⟨tail, whole⟩ := starts
      have solid : ".section".toList.any Text.isBlank = false := by decide
      have words : line.words = ".section".toList :: Text.words (segment.name.toList ++ tail) := by
        rw [Line.words, ← Text.words_normalize, ← Line.normalized, ← whole, List.append_assoc,
          List.cons_append, Text.words_append_space _ (by decide)
            fun c member => eq_false_of_ne_true (List.any_eq_false.mp solid c member)]
      have mnemonic : line.mnemonic? = some ".section" := by
        rw [Line.mnemonic?, if_pos statement, words, List.head?_cons, Option.map_some,
          String.ofList_toList]
      rw [Line.isDirective, mnemonic]
      exact Bool.or_true _
  · exact segmental (by rw [dotted, Bool.or_true])

namespace DataExtent

theorem opens_of_mem_scan {segment : DataSegment} {lines : List Line} {cursor : Nat}
    {extent : DataExtent} (met : extent ∈ scan segment lines cursor) :
    ∃ line, lines[extent.opening]? = some line ∧ segment.isOpenedBy line = true := by
  fun_induction scan segment lines cursor with
  | case1 => contradiction
  | case2 cursor first next ih =>
      rcases List.mem_cons.mp met with rfl | later
      · obtain ⟨gap, line, rest, split, opens, -, rfl⟩ := exists_of_next? next
        refine ⟨line, ?_, opens⟩
        rw [← List.head?_drop, Extent.drop_behind_gap split, List.head?_cons]
      · exact ih later

theorem not_isBoundary_of_mem_inside {segment : DataSegment} {lines : List Line} {cursor : Nat}
    {extent : DataExtent} (met : extent ∈ scan segment lines cursor) :
    ∀ line ∈ extent.inside lines, line.isBoundary = false := by
  fun_induction scan segment lines cursor with
  | case1 => contradiction
  | case2 cursor first next ih =>
      rcases List.mem_cons.mp met with rfl | later
      · obtain ⟨gap, opening, rest, split, -, -, rfl⟩ := exists_of_next? next
        have behind : lines.drop (cursor + gap.length + 1) = rest := by
          rw [← List.drop_drop, Extent.drop_behind_gap split, List.drop_one, List.tail_cons]
        have held := List.prefix_iff_eq_take.mp
          (List.takeWhile_prefix (fun line : Line => !line.isBoundary) (l := rest))
        intro line member
        rw [inside, behind, Nat.add_sub_cancel_left, ← held] at member
        simpa using List.mem_takeWhile_imp member
      · exact ih later

section

variable {α β : Type} {G : Type} [Random.Generator G]

theorem draw_map (starts : β → Bool) (f : α → β) (xs : List α) (extents : List DataExtent) (g : G) :
    draw starts (xs.map f) extents g =
      ((draw (fun x => starts (f x)) xs extents g).1.map (·.map (·.map f)),
        (draw (fun x => starts (f x)) xs extents g).2) := by
  unfold draw
  induction extents generalizing g with
  | nil => rfl
  | cons extent rest ih =>
      rw [Random.traverse, Random.traverse]
      dsimp only
      rw [objects_map, Random.shuffle_map]
      dsimp only
      rw [ih]
      rfl

theorem arranged_pieces_map (starts : β → Bool) (f : α → β) (xs : List α)
    (extents : List DataExtent) (g : G) :
    arranged (xs.map f) 0 (pieces starts (xs.map f) extents g) =
      (arranged xs 0 (pieces (fun x => starts (f x)) xs extents g)).map f := by
  rw [← arranged_map, pieces, draw_map, List.zip_map_right]
  rfl

end

end DataExtent

namespace DataExtent

theorem covers_of_mem_inside_range {count former : Nat} {extent : DataExtent}
    (member : former ∈ extent.inside (List.range count)) : extent.Covers former := by
  obtain ⟨index, there⟩ := List.mem_iff_getElem?.mp member
  rw [inside, List.getElem?_take] at there
  split at there
  · rw [List.getElem?_drop] at there
    obtain ⟨within, same⟩ := List.getElem?_eq_some_iff.mp there
    rw [List.getElem_range] at same
    exact ⟨by omega, by omega⟩
  · contradiction

/-- The last of some extents that opens above a position. -/
def nearest? (extents : List DataExtent) (position : Nat) : Option DataExtent :=
  (extents.filter (·.opening < position)).getLast?

/-- The other extents end above the nearest one, or open below the position and below its stop. -/
theorem Placed.of_nearest? {length cursor position : Nat} {extents : List DataExtent}
    {extent : DataExtent} (placed : Placed length cursor extents)
    (found : nearest? extents position = some extent) :
    extent ∈ extents ∧ extent.opening < position ∧ ∀ other ∈ extents, other ≠ extent →
      other.stop ≤ extent.opening ∨ position ≤ other.opening ∧ extent.stop ≤ other.opening := by
  induction placed with
  | nil => contradiction
  | @cons cursor first rest ahead filled later ih =>
      cases among : nearest? rest position with
      | some last =>
          have same : nearest? (first :: rest) position = some last := by
            rw [nearest?] at among ⊢
            rw [List.filter_cons]
            split
            · rw [List.getLast?_cons, among, Option.getD_some]
            · exact among
          rw [same, Option.some.injEq] at found
          subst found
          obtain ⟨met, above, others⟩ := ih among
          refine ⟨List.mem_cons_of_mem _ met, above, ?_⟩
          intro other met' differs
          rcases List.mem_cons.mp met' with rfl | behind
          · exact .inl (later.bounds met).1
          · exact others other behind differs
      | none =>
          have below : ∀ other ∈ rest, position ≤ other.opening := by
            intro other met
            have empty := List.getLast?_eq_none_iff.mp among
            simpa using List.filter_eq_nil_iff.mp empty other met
          rw [nearest?] at among found
          rw [List.getLast?_eq_none_iff] at among
          rw [List.filter_cons, among] at found
          split at found
          · rename_i above
            cases found
            refine ⟨List.mem_cons_self .., of_decide_eq_true above, ?_⟩
            intro other met differs
            rcases List.mem_cons.mp met with rfl | behind
            · exact absurd rfl differs
            · exact .inr ⟨below other behind, (later.bounds behind).1⟩
          · contradiction

/-- No other extent reaches between the opening line of the nearest one and the position. -/
theorem Placed.eq_of_covers {length cursor position index : Nat} {extents : List DataExtent}
    {extent other : DataExtent} (placed : Placed length cursor extents)
    (found : nearest? extents position = some extent) (met : other ∈ extents)
    (behind : extent.opening < index) (before : index ≤ position) (covers : other.Covers index) :
    other = extent := by
  obtain ⟨-, -, others⟩ := placed.of_nearest? found
  by_contra differs
  simp only [Covers] at covers
  rcases others other met differs with first | last <;> omega

end DataExtent

namespace Section

open DataExtent

variable {G : Type} [Random.Generator G]

/-- Where the lines of a section stood before a shuffle of its objects, in their order after it: the
    positions are shuffled as the lines are. -/
def shuffleOrder (segment : DataSegment) (sec : Section) (g : G) : List Nat :=
  let positions := List.range sec.lines.length
  arranged positions 0 (pieces (fun position => sec.lines[position]?.any Line.isLabel) positions
    (scan segment sec.lines 0) g)

variable {segment : DataSegment} {sec : Section} {g : G}

theorem map_shuffleOrder (segment : DataSegment) (sec : Section) (g : G) :
    (sec.shuffleOrder segment g).map (fun position => sec.lines[position]?) =
      (arranged sec.lines 0 (pieces Line.isLabel sec.lines (scan segment sec.lines 0) g)).map
        some := by
  have positions := arranged_pieces_map (fun line? : Option Line => line?.any Line.isLabel)
    (fun position => sec.lines[position]?) (List.range sec.lines.length)
    (scan segment sec.lines 0) g
  rw [← map_some_eq, arranged_pieces_map] at positions
  exact positions.symm

theorem placed_range (segment : DataSegment) (sec : Section) :
    Placed (List.range sec.lines.length).length 0 (scan segment sec.lines 0) := by
  rw [List.length_range]
  exact placed_extents segment sec

theorem shuffleOrder_perm (segment : DataSegment) (sec : Section) (g : G) :
    (sec.shuffleOrder segment g).Perm (List.range sec.lines.length) :=
  arranged_pieces_perm _ (placed_range segment sec) g

theorem contents_of_shuffleOrder {position former : Nat}
    (moved : (sec.shuffleOrder segment g)[position]? = some former) :
    (sec.shuffleSegment segment g).1.1.contents[position]? = sec.contents[former]? := by
  have there := congrArg (·[position]?) (map_shuffleOrder segment sec g)
  rw [List.getElem?_map, moved, Option.map_some, List.getElem?_map] at there
  rw [contents_shuffleSegment, List.getElem?_map, contents, List.getElem?_map]
  cases found : (arranged sec.lines 0
      (pieces Line.isLabel sec.lines (scan segment sec.lines 0) g))[position]? with
  | none => simp [found] at there
  | some line =>
      rw [found, Option.map_some, Option.some.injEq] at there
      rw [there]

theorem length_objects_range (sec : Section) (extent : DataExtent) :
    (extent.objects (fun position => sec.lines[position]?.any Line.isLabel)
      (List.range sec.lines.length)).length = (extent.objects Line.isLabel sec.lines).length := by
  have positions := objects_map (fun line? : Option Line => line?.any Line.isLabel)
    (fun position => sec.lines[position]?) (List.range sec.lines.length) extent
  rw [← map_some_eq, objects_map] at positions
  have length := congrArg List.length positions
  rw [List.length_map, List.length_map] at length
  exact length.symm

theorem covers_of_shuffleOrder {position former : Nat}
    (moved : (sec.shuffleOrder segment g)[position]? = some former) :
    former = position ∨ ∃ extent ∈ scan segment sec.lines 0,
      2 ≤ (extent.objects Line.isLabel sec.lines).length ∧ extent.Covers position ∧
        extent.Covers former := by
  have placed := placed_range segment sec
  by_cases covered : ∃ extent ∈ scan segment sec.lines 0,
      2 ≤ (extent.objects Line.isLabel sec.lines).length ∧ extent.Covers position
  · obtain ⟨extent, met, many, covers⟩ := covered
    refine .inr ⟨extent, met, many, covers, ?_⟩
    rw [← map_fst_pieces (fun position => sec.lines[position]?.any Line.isLabel)
      (List.range sec.lines.length) (scan segment sec.lines 0) g] at met
    obtain ⟨piece, listed, rfl⟩ := List.mem_map.mp met
    have held := inside_arranged_pieces placed listed
    rw [shuffleOrder, ← getElem?_inside covers, held] at moved
    exact covers_of_mem_inside_range
      ((filled_pieces _ _ _ g piece listed).mem_iff.mp (List.mem_of_getElem? moved))
  · left
    rw [shuffleOrder, getElem?_arranged_pieces placed] at moved
    · obtain ⟨within, same⟩ := List.getElem?_eq_some_iff.mp moved
      rw [List.getElem_range] at same
      exact same.symm
    · intro extent met many covers
      rw [length_objects_range] at many
      exact covered ⟨extent, met, many, covers⟩

theorem contents_unmoved {position : Nat} (outside : ∀ extent ∈ scan segment sec.lines 0,
      2 ≤ (extent.objects Line.isLabel sec.lines).length → ¬extent.Covers position) :
    (sec.shuffleSegment segment g).1.1.contents[position]? = sec.contents[position]? := by
  rw [contents_shuffleSegment, List.getElem?_map,
    getElem?_arranged_pieces (placed_extents segment sec) g outside, ← List.getElem?_map,
    contents]

theorem inside_contents_perm {extent : DataExtent} (met : extent ∈ scan segment sec.lines 0) (g : G) :
    (extent.inside (sec.shuffleSegment segment g).1.1.contents).Perm
      (extent.inside sec.contents) := by
  rw [← map_fst_pieces Line.isLabel sec.lines (scan segment sec.lines 0) g] at met
  obtain ⟨piece, listed, rfl⟩ := List.mem_map.mp met
  rw [contents_shuffleSegment, contents, inside_map, inside_map,
    inside_arranged_pieces (placed_extents segment sec) listed]
  exact (filled_pieces _ _ _ g piece listed).map _

/-- The directive that governs a line: the nearest one above it. -/
def directiveAbove? (sec : Section) (position : Nat) : Option String :=
  lastDirective? (sec.lines.take position)

/-- Whether an extent holds no directive but such as read like its opening line. -/
def Uniform (sec : Section) (extent : DataExtent) : Prop :=
  ∀ content ∈ extent.inside sec.contents, Line.isDirective ⟨content, 0⟩ = true →
    sec.contents[extent.opening]? = some content
  deriving Decidable

section

variable {extent : DataExtent} {opening : Line} {position : Nat}

theorem directiveAbove?_of_opening (there : sec.lines[extent.opening]? = some opening)
    (directs : opening.isDirective = true) (below : extent.opening < position) :
    sec.directiveAbove? position =
      (lastDirective? ((sec.lines.drop (extent.opening + 1)).take
        (position - (extent.opening + 1)))).or (some opening.content) := by
  obtain ⟨between, rfl⟩ := Nat.exists_eq_add_of_le (Nat.succ_le_of_lt below)
  obtain ⟨within, stands⟩ := List.getElem?_eq_some_iff.mp there
  have split : sec.lines.take (extent.opening + 1 + between) =
      sec.lines.take extent.opening ++
        opening :: (sec.lines.drop (extent.opening + 1)).take between := by
    rw [Nat.add_assoc, Nat.add_comm 1, List.take_add, List.drop_eq_getElem_cons within, stands,
      List.take_succ_cons]
  rw [directiveAbove?, split, lastDirective?_behind directs, Nat.add_sub_cancel_left]

theorem directiveAbove?_of_uniform (there : sec.lines[extent.opening]? = some opening)
    (directs : opening.isDirective = true)
    (bounds : extent.opening < extent.stop ∧ extent.stop ≤ sec.lines.length)
    (uniform : sec.Uniform extent) (below : extent.opening < position) :
    sec.directiveAbove? position =
      (lastDirective? ((sec.lines.drop extent.stop).take (position - extent.stop))).or
        (some opening.content) := by
  have whole : sec.lines.drop (extent.opening + 1) =
      extent.inside sec.lines ++ sec.lines.drop extent.stop := by
    conv_lhs => rw [← List.take_append_drop (extent.stop - (extent.opening + 1))
      (sec.lines.drop (extent.opening + 1))]
    rw [List.drop_drop, Nat.add_sub_cancel' bounds.1]
    rfl
  have rest : position - (extent.opening + 1) - (extent.inside sec.lines).length =
      position - extent.stop := by
    rw [length_inside bounds]
    omega
  rw [directiveAbove?_of_opening there directs below, whole, List.take_append, rest,
    lastDirective?_append, Option.or_assoc, lastDirective?_of_uniform]
  intro line listed own
  have text : line.content ∈ extent.inside sec.contents := by
    rw [contents, inside_map]
    exact List.mem_map_of_mem (List.mem_of_mem_take listed)
  have same := uniform line.content text own
  rw [contents, List.getElem?_map, there, Option.map_some, Option.some.injEq] at same
  exact same.symm

end

theorem uniform_of_segments {extent : DataExtent} (met : extent ∈ scan segment sec.lines 0)
    (segments : ∀ line ∈ sec.lines, line.isDirective = true → line.isSegment = true) :
    sec.Uniform extent := by
  intro content listed directive
  rw [contents, inside_map] at listed
  obtain ⟨line, inner, rfl⟩ := List.mem_map.mp listed
  have member : line ∈ sec.lines := List.mem_of_mem_drop (List.mem_of_mem_take inner)
  have segment := segments line member directive
  have open' := not_isBoundary_of_mem_inside met line inner
  rw [Line.isBoundary, (Bool.and_eq_true_iff.mp segment).1, segment, Bool.true_or, Bool.and_true,
    Bool.or_true] at open'
  contradiction

/-- Below the nearest extent nothing moves, and neither does anything inside one without two
    objects. -/
theorem contents_below_nearest {position index : Nat} {extent : DataExtent}
    (found : nearest? (scan segment sec.lines 0) position = some extent)
    (behind : extent.opening < index) (before : index ≤ position)
    (outside : (extent.objects Line.isLabel sec.lines).length < 2 ∨ extent.stop ≤ index) :
    (sec.shuffleSegment segment g).1.1.contents[index]? = sec.contents[index]? := by
  apply contents_unmoved
  intro other met many covers
  have placed := placed_extents segment sec
  rw [placed.eq_of_covers found met behind before covers] at many covers
  simp only [Covers] at covers
  omega

theorem moves_in_nearest {position former : Nat} {extent : DataExtent}
    (moved : (sec.shuffleOrder segment g)[position]? = some former)
    (found : nearest? (scan segment sec.lines 0) former = some extent) :
    former = position ∨ 2 ≤ (extent.objects Line.isLabel sec.lines).length ∧
      extent.Covers position ∧ extent.Covers former := by
  have placed := placed_extents segment sec
  obtain ⟨-, above, -⟩ := placed.of_nearest? found
  refine (covers_of_shuffleOrder moved).imp_right ?_
  rintro ⟨other, met, inner⟩
  rwa [placed.eq_of_covers found met above (Nat.le_refl _) inner.2.2] at inner

theorem opening_kept {extent : DataExtent} (met : extent ∈ scan segment sec.lines 0) (g : G) :
    ∃ former opening, sec.lines[extent.opening]? = some former ∧
      (sec.shuffleSegment segment g).1.1.lines[extent.opening]? = some opening ∧
      opening.content = former.content ∧ former.isDirective = true ∧ opening.isDirective = true := by
  obtain ⟨former, there, opens⟩ := opens_of_mem_scan met
  have placed := placed_extents segment sec
  have kept : (sec.shuffleSegment segment g).1.1.contents[extent.opening]? =
      some former.content := by
    rw [contents_unmoved fun other met' _ => placed.not_covers_opening met met', contents,
      List.getElem?_map, there, Option.map_some]
  rw [contents, List.getElem?_map, Option.map_eq_some_iff] at kept
  obtain ⟨opening, found, text⟩ := kept
  have directs := isDirective_of_isOpenedBy opens
  exact ⟨former, opening, there, found, text, directs, (isDirective_congr text).trans directs⟩

theorem directiveAbove?_of_nearest?_none {position former : Nat}
    (moved : (sec.shuffleOrder segment g)[position]? = some former)
    (none : nearest? (scan segment sec.lines 0) former = none) :
    (sec.shuffleSegment segment g).1.1.directiveAbove? position = sec.directiveAbove? former := by
  have below : ∀ other ∈ scan segment sec.lines 0, former ≤ other.opening := by
    intro other met
    have empty := List.getLast?_eq_none_iff.mp none
    simpa using List.filter_eq_nil_iff.mp empty other met
  have stays : former = position := by
    refine (covers_of_shuffleOrder moved).resolve_right ?_
    rintro ⟨other, met, -, -, covers⟩
    exact absurd covers.1 (Nat.not_lt_of_le (below other met))
  subst stays
  have unmoved : ∀ index, 0 ≤ index → index < former →
      (sec.shuffleSegment segment g).1.1.contents[index]? = sec.contents[index]? := by
    intro index _ before
    apply contents_unmoved
    intro other met _ covers
    exact absurd (Nat.lt_trans covers.1 before) (Nat.not_lt_of_le (below other met))
  apply lastDirective?_congr
  rw [List.map_take, List.map_take]
  exact slice_congr unmoved

theorem directiveAbove?_of_few {position former : Nat} {extent : DataExtent}
    (moved : (sec.shuffleOrder segment g)[position]? = some former)
    (found : nearest? (scan segment sec.lines 0) former = some extent)
    (few : (extent.objects Line.isLabel sec.lines).length < 2) :
    (sec.shuffleSegment segment g).1.1.directiveAbove? position = sec.directiveAbove? former := by
  obtain ⟨met, above, -⟩ := (placed_extents segment sec).of_nearest? found
  obtain ⟨opening, opening', there, there', text, directs, directs'⟩ := opening_kept met g
  have stays : former = position :=
    (moves_in_nearest moved found).resolve_right fun inner => by omega
  subst stays
  rw [directiveAbove?_of_opening there' directs' above, directiveAbove?_of_opening there directs above,
    text]
  congr 1
  apply lastDirective?_congr
  rw [List.map_take, List.map_drop, List.map_take, List.map_drop]
  exact slice_congr fun index behind before =>
    contents_below_nearest found behind (Nat.le_of_lt before) (.inl few)

theorem directiveAbove?_of_uniform_nearest {position former : Nat} {extent : DataExtent}
    (moved : (sec.shuffleOrder segment g)[position]? = some former)
    (found : nearest? (scan segment sec.lines 0) former = some extent)
    (uniform : sec.Uniform extent) :
    (sec.shuffleSegment segment g).1.1.directiveAbove? position = sec.directiveAbove? former := by
  have placed := placed_extents segment sec
  obtain ⟨met, above, -⟩ := placed.of_nearest? found
  obtain ⟨opening, opening', there, there', text, directs, directs'⟩ := opening_kept met g
  obtain ⟨-, bounds⟩ := placed.bounds met
  have moves := moves_in_nearest moved found
  have below : extent.opening < position := by
    rcases moves with rfl | ⟨-, covers, -⟩
    · exact above
    · exact covers.1
  have length : (sec.shuffleSegment segment g).1.1.lines.length = sec.lines.length := by
    have texts := congrArg List.length (contents_shuffleSegment segment sec g)
    rwa [contents, List.length_map, List.length_map,
      (arranged_pieces_perm Line.isLabel placed g).length_eq] at texts
  have uniform' : (sec.shuffleSegment segment g).1.1.Uniform extent := by
    intro content listed directive
    have same := uniform content ((inside_contents_perm met g).mem_iff.mp listed) directive
    rwa [contents, List.getElem?_map, there, Option.map_some, ← text, ← Option.map_some, ← there',
      ← List.getElem?_map] at same
  rw [directiveAbove?_of_uniform there' directs' (length ▸ bounds) uniform' below,
    directiveAbove?_of_uniform there directs bounds uniform above, text]
  congr 1
  apply lastDirective?_congr
  rw [List.map_take, List.map_drop, List.map_take, List.map_drop]
  -- A line behind the extent stays, and one inside has nothing behind the stop above it.
  rcases moves with rfl | ⟨-, covers, covers'⟩
  · exact slice_congr fun index behind before =>
      contents_below_nearest found (Nat.lt_of_lt_of_le bounds.1 behind) (Nat.le_of_lt before)
        (.inr behind)
  · rw [Nat.sub_eq_zero_of_le (Nat.le_of_lt covers.2),
      Nat.sub_eq_zero_of_le (Nat.le_of_lt covers'.2), List.take_zero, List.take_zero]

/-- A shuffle keeps the directive above a line, unless the nearest extent that opens above it has
    two objects and holds a directive that does not read like its opening line. So it keeps that
    above every line where all directives of a section open segments. -/
theorem directive_above_kept (segment : DataSegment) (sec : Section) (g : G) :
    let after := (sec.shuffleSegment segment g).1.1
    let order := sec.shuffleOrder segment g
    let extents := scan segment sec.lines 0
    order.Perm (List.range sec.lines.length) ∧
    ∀ position former, order[position]? = some former →
      after.contents[position]? = sec.contents[former]? ∧
      ((∀ extent, nearest? extents former = some extent →
          (extent.objects Line.isLabel sec.lines).length < 2 ∨ sec.Uniform extent) →
        after.directiveAbove? position = sec.directiveAbove? former) ∧
      ((∀ line ∈ sec.lines, line.isDirective = true → line.isSegment = true) →
        after.directiveAbove? position = sec.directiveAbove? former) := by
  intro after order extents
  refine ⟨shuffleOrder_perm segment sec g, ?_⟩
  intro position former moved
  have kept (tame : ∀ extent, nearest? extents former = some extent →
      (extent.objects Line.isLabel sec.lines).length < 2 ∨ sec.Uniform extent) :
      after.directiveAbove? position = sec.directiveAbove? former := by
    cases found : nearest? extents former with
    | none => exact directiveAbove?_of_nearest?_none moved found
    | some extent =>
        rcases tame extent found with few | uniform
        · exact directiveAbove?_of_few moved found few
        · exact directiveAbove?_of_uniform_nearest moved found uniform
  refine ⟨contents_of_shuffleOrder moved, kept, ?_⟩
  intro segments
  apply kept
  intro extent found
  obtain ⟨met, -⟩ := (placed_extents segment sec).of_nearest? found
  exact .inr (uniform_of_segments met segments)

/-- The second object takes the place of the first one, which holds a directive like that above. -/
theorem directive_above_kept_past_repetition :
    let sec := ofLines .gcc (Line.numbered 0 ["\t.section data", "a:", "\t.long 1",
      "\t.section data", "b:", "\t.long 2", "\t.text", "c:"])
    let after := (sec.shuffleSegment .data Listing.swappingStream).1.1
    let order := sec.shuffleOrder .data Listing.swappingStream
    order = [0, 4, 5, 1, 2, 3, 6, 7] ∧
    nearest? (scan .data sec.lines 0) 4 = some ⟨0, 6⟩ ∧ sec.Uniform ⟨0, 6⟩ ∧
    after.contents[1]? = some "b:" ∧ after.directiveAbove? 1 = some "\t.section data" := by
  intro sec after order
  have moved : order = [0, 4, 5, 1, 2, 3, 6, 7] := by decide +kernel
  have found : nearest? (scan .data sec.lines 0) 4 = some ⟨0, 6⟩ := by decide +kernel
  have uniform : sec.Uniform ⟨0, 6⟩ := by decide +kernel
  obtain ⟨text, above, -⟩ :=
    (directive_above_kept .data sec Listing.swappingStream).2 1 4 (by decide +kernel)
  have kept : after.directiveAbove? 1 = sec.directiveAbove? 4 := by
    apply above
    intro extent nearest
    rw [found] at nearest
    cases nearest
    exact .inr uniform
  exact ⟨moved, found, uniform, text.trans (by decide), kept.trans (by decide +kernel)⟩

/-- An object behind a directive that opens another segment, but is no boundary, goes over to the
    segment that is shuffled. -/
theorem object_leaves_rodata :
    let sec := ofLines .gcc (Line.numbered 0 ["\t.data", "a:", "\t.long 1", "\t.section rodata",
      "t:", "\t.long 2"])
    let shuffled := sec.shuffleSegment .data Listing.swappingStream
    DataSegment.rodata.isOpenedBy ⟨"\t.section rodata", 3⟩ = true ∧
    (⟨"\t.section rodata", 3⟩ : Line).isBoundary = false ∧
    sec.shuffleOrder .data Listing.swappingStream = [0, 4, 5, 1, 2, 3] ∧
    shuffled.1.1.contents = ["\t.data", "t:", "\t.long 2", "a:", "\t.long 1", "\t.section rodata"] ∧
    shuffled.1.2 = [⟨0, 2⟩] ∧
    (⟨"t:", 4⟩ : Line).isLabel = true ∧
    sec.directiveAbove? 4 = some "\t.section rodata" ∧
    shuffled.1.1.directiveAbove? 1 = some "\t.data" := by
  decide +kernel

end Section

end AsmLayout
