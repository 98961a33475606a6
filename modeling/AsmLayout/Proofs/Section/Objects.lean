import AsmLayout.Proofs.Checked.Segment
import AsmLayout.Proofs.Listing.Directive

/-! # The extents of a data segment

Extents are found in the lines of a section as they were, by positions. A shuffle draws a new order
for the objects of each extent that has at least two, and only they change places; one pass over a
buffer that is rewritten under the cursor comes to the same.
-/

namespace AsmLayout

/-- An extent of a data segment, by positions: that of the line that opens it, and that of the next
    boundary, or behind all lines. -/
structure DataExtent where
  opening : Nat
  stop : Nat
  deriving Repr, DecidableEq

namespace DataExtent

/-- The first extent from a cursor on. -/
def next? (segment : DataSegment) (lines : List Line) (cursor : Nat) : Option DataExtent :=
  (Extent.firstFrom? segment.isOpenedBy lines cursor).map fun opening =>
    ⟨opening, (Extent.firstFrom? Line.isBoundary lines (opening + 1)).getD lines.length⟩

/-- Whether a position lies inside, between the opening line and the stop. -/
def Covers (extent : DataExtent) (position : Nat) : Prop :=
  extent.opening < position ∧ position < extent.stop
  deriving Decidable

section

variable {α : Type}

def inside (xs : List α) (extent : DataExtent) : List α :=
  (xs.drop (extent.opening + 1)).take (extent.stop - (extent.opening + 1))

/-- The runs inside an extent. -/
def objects (starts : α → Bool) (xs : List α) (extent : DataExtent) : List (List α) :=
  runs starts (extent.inside xs)

end

theorem exists_of_next? {segment : DataSegment} {lines : List Line} {cursor : Nat}
    {extent : DataExtent} (next : next? segment lines cursor = some extent) :
    ∃ gap line rest, lines.drop cursor = gap ++ line :: rest ∧ segment.isOpenedBy line = true ∧
      (∀ other ∈ gap, segment.isOpenedBy other = false) ∧
      extent = ⟨cursor + gap.length,
        cursor + gap.length + 1 + (rest.takeWhile (!·.isBoundary)).length⟩ := by
  obtain ⟨opening, found, rfl⟩ := Option.map_eq_some_iff.mp next
  obtain ⟨gap, line, rest, split, opens, before, rfl⟩ := Extent.firstFrom?_eq_some found
  have behind : lines.drop (cursor + gap.length + 1) = rest := by
    rw [← List.drop_drop, Extent.drop_behind_gap split, List.drop_one, List.tail_cons]
  have within : cursor + gap.length + 1 ≤ lines.length := by
    have length := congrArg List.length split
    simp only [List.length_drop, List.length_append, List.length_cons] at length
    omega
  have stop := Checked.getD_firstFrom?_append Line.isBoundary
    (lines.take (cursor + gap.length + 1)) (lines.drop (cursor + gap.length + 1))
  rw [List.take_append_drop, List.length_take_of_le within, behind] at stop
  exact ⟨gap, line, rest, split, opens, before, by rw [stop]⟩

theorem bounds_of_next? {segment : DataSegment} {lines : List Line} {cursor : Nat}
    {extent : DataExtent} (next : next? segment lines cursor = some extent) :
    cursor ≤ extent.opening ∧ extent.opening < extent.stop ∧ extent.stop ≤ lines.length := by
  obtain ⟨gap, line, rest, split, -, -, rfl⟩ := exists_of_next? next
  have length := congrArg List.length split
  have inner := (List.takeWhile_sublist (fun line : Line => !line.isBoundary) (l := rest)).length_le
  simp only [List.length_drop, List.length_append, List.length_cons] at length
  dsimp only
  omega

def scan (segment : DataSegment) (lines : List Line) (cursor : Nat) : List DataExtent :=
  match _next : next? segment lines cursor with
  | none => []
  | some extent => extent :: scan segment lines extent.stop
termination_by lines.length - cursor
decreasing_by
  have := bounds_of_next? _next
  omega

/-- Extents from a cursor on that follow each other within `length` positions. -/
inductive Placed (length : Nat) : Nat → List DataExtent → Prop where
  | nil {cursor : Nat} (within : cursor ≤ length) : Placed length cursor []
  | cons {cursor : Nat} {extent : DataExtent} {rest : List DataExtent}
      (ahead : cursor ≤ extent.opening) (filled : extent.opening < extent.stop)
      (later : Placed length extent.stop rest) : Placed length cursor (extent :: rest)

theorem placed_scan (segment : DataSegment) {lines : List Line} {cursor : Nat}
    (within : cursor ≤ lines.length) : Placed lines.length cursor (scan segment lines cursor) := by
  fun_induction scan segment lines cursor with
  | case1 => exact .nil within
  | case2 cursor extent next ih =>
      obtain ⟨ahead, filled, last⟩ := bounds_of_next? next
      exact .cons ahead filled (ih last)

namespace Placed

variable {length cursor : Nat} {extent : DataExtent} {extents : List DataExtent}

theorem within (placed : Placed length cursor extents) : cursor ≤ length := by
  induction placed with
  | nil within => exact within
  | cons ahead filled _ ih => omega

theorem bounds (placed : Placed length cursor extents) (met : extent ∈ extents) :
    cursor ≤ extent.opening ∧ extent.opening < extent.stop ∧ extent.stop ≤ length := by
  induction placed with
  | nil => contradiction
  | cons ahead filled later ih =>
      rcases List.mem_cons.mp met with rfl | met
      · exact ⟨ahead, filled, later.within⟩
      · have := ih met
        omega

theorem apart (placed : Placed length cursor extents) {other : DataExtent}
    (met : extent ∈ extents) (met' : other ∈ extents) :
    extent = other ∨ extent.stop ≤ other.opening ∨ other.stop ≤ extent.opening := by
  induction placed with
  | nil => contradiction
  | cons ahead filled later ih =>
      rcases List.mem_cons.mp met with rfl | behind <;>
        rcases List.mem_cons.mp met' with rfl | behind'
      · exact .inl rfl
      · exact .inr (.inl (later.bounds behind').1)
      · exact .inr (.inr (later.bounds behind).1)
      · exact ih behind behind'

theorem not_covers_opening (placed : Placed length cursor extents) {other : DataExtent}
    (met : extent ∈ extents) (met' : other ∈ extents) : ¬other.Covers extent.opening := by
  rintro ⟨behind, before⟩
  have bounds := placed.bounds met
  rcases placed.apart met met' with rfl | first | first <;> omega

end Placed

section

variable {α : Type} {xs : List α} {extent : DataExtent}

theorem length_inside (bounds : extent.opening < extent.stop ∧ extent.stop ≤ xs.length) :
    (extent.inside xs).length = extent.stop - (extent.opening + 1) := by
  rw [inside, List.length_take, List.length_drop]
  omega

theorem getElem?_inside {position : Nat} (covers : extent.Covers position) (xs : List α) :
    (extent.inside xs)[position - (extent.opening + 1)]? = xs[position]? := by
  obtain ⟨behind, before⟩ := covers
  rw [inside, List.getElem?_take_of_lt (by omega), List.getElem?_drop]
  congr 1
  omega

theorem slice_congr {ys : List α} {low high : Nat}
    (same : ∀ position, low ≤ position → position < high → xs[position]? = ys[position]?) :
    (xs.drop low).take (high - low) = (ys.drop low).take (high - low) := by
  apply List.ext_getElem?
  intro index
  by_cases within : index < high - low
  · rw [List.getElem?_take_of_lt within, List.getElem?_take_of_lt within, List.getElem?_drop,
      List.getElem?_drop, same _ (Nat.le_add_right ..) (by omega)]
  · rw [List.getElem?_take_eq_none (by omega), List.getElem?_take_eq_none (by omega)]

theorem inside_congr {ys : List α}
    (same : ∀ position, extent.Covers position → xs[position]? = ys[position]?) :
    extent.inside xs = extent.inside ys :=
  slice_congr fun position behind before => same position ⟨behind, before⟩

theorem inside_map {β : Type} (f : α → β) (xs : List α) (extent : DataExtent) :
    extent.inside (xs.map f) = (extent.inside xs).map f := by
  rw [inside, inside, List.map_take, List.map_drop]

theorem objects_map {β : Type} (starts : β → Bool) (f : α → β) (xs : List α)
    (extent : DataExtent) :
    extent.objects starts (xs.map f) =
      (extent.objects (fun x => starts (f x)) xs).map (·.map f) := by
  rw [objects, inside_map, runs_map]
  rfl

end

section

variable {α : Type}

/-- A list in which extents are filled with other objects, from a cursor on. -/
def arranged (xs : List α) : Nat → List (DataExtent × List (List α)) → List α
  | cursor, [] => xs.drop cursor
  | cursor, (extent, objects) :: rest =>
    (xs.drop cursor).take (extent.opening + 1 - cursor) ++ objects.flatten ++
      arranged xs extent.stop rest

variable {xs : List α} {cursor : Nat} {pieces : List (DataExtent × List (List α))}

theorem arranged_map {β : Type} (f : α → β) (xs : List α) (cursor : Nat)
    (pieces : List (DataExtent × List (List α))) :
    arranged (xs.map f) cursor (pieces.map fun piece => (piece.1, piece.2.map (·.map f))) =
      (arranged xs cursor pieces).map f := by
  induction pieces generalizing cursor with
  | nil => rw [List.map_nil, arranged, arranged, List.map_drop]
  | cons piece rest ih =>
      rw [List.map_cons, arranged, arranged, ih, List.map_append, List.map_append, List.map_take,
        List.map_drop, List.map_flatten]

/-- Extents are filled with what stood inside, in another order. -/
def Filled (xs : List α) (pieces : List (DataExtent × List (List α))) : Prop :=
  ∀ piece ∈ pieces, piece.2.flatten.Perm (piece.1.inside xs)

/-- The lines in front of the cursor and the arranged ones. In front of the stop of the first extent
    only what is inside is new. -/
theorem arranged_cons {extent : DataExtent} {objects : List (List α)}
    {rest : List (DataExtent × List (List α))} (ahead : cursor ≤ extent.opening) :
    xs.take cursor ++ arranged xs cursor ((extent, objects) :: rest) =
      xs.take (extent.opening + 1) ++ (objects.flatten ++ arranged xs extent.stop rest) := by
  rw [arranged, List.append_assoc, ← List.append_assoc, ← List.take_add,
    Nat.add_sub_cancel' (by omega)]

theorem take_stop {extent : DataExtent} (filled : extent.opening < extent.stop) (xs : List α) :
    xs.take extent.stop = xs.take (extent.opening + 1) ++ extent.inside xs := by
  rw [inside, ← List.take_add, Nat.add_sub_cancel' filled]

theorem arranged_perm (placed : Placed xs.length cursor (pieces.map (·.1)))
    (filled : Filled xs pieces) : (xs.take cursor ++ arranged xs cursor pieces).Perm xs := by
  induction pieces generalizing cursor with
  | nil => rw [arranged, List.take_append_drop]
  | cons piece rest ih =>
      cases placed with
      | cons ahead nonempty later =>
          have own := filled piece (List.mem_cons_self ..)
          have others := ih later fun piece met => filled piece (List.mem_cons_of_mem _ met)
          rw [take_stop nonempty, List.append_assoc] at others
          rw [arranged_cons ahead]
          exact ((own.append_right _).append_left _).trans others

theorem getElem?_of_outside {front inner inner' : List α} {position : Nat} (back : List α)
    (length : inner'.length = inner.length)
    (outside : position < front.length ∨ front.length + inner.length ≤ position) :
    (front ++ (inner' ++ back))[position]? = (front ++ (inner ++ back))[position]? := by
  rcases outside with before | behind
  · rw [List.getElem?_append_left before, List.getElem?_append_left before]
  · rw [← List.append_assoc, ← List.append_assoc, List.getElem?_append_right (by simp; omega),
      List.getElem?_append_right (by simp; omega), List.length_append, List.length_append, length]

/-- Positions that no extent covers are not touched, and an extent holds what it is filled with. -/
theorem arranged_spec (placed : Placed xs.length cursor (pieces.map (·.1)))
    (filled : Filled xs pieces) :
    (∀ position, (∀ piece ∈ pieces, ¬piece.1.Covers position) →
      (xs.take cursor ++ arranged xs cursor pieces)[position]? = xs[position]?) ∧
    ∀ piece ∈ pieces,
      piece.1.inside (xs.take cursor ++ arranged xs cursor pieces) = piece.2.flatten := by
  induction pieces generalizing cursor with
  | nil =>
      rw [arranged, List.take_append_drop]
      exact ⟨fun _ _ => rfl, fun _ met => nomatch met⟩
  | cons piece rest ih =>
      obtain ⟨extent, objects⟩ := piece
      cases placed with
      | cons ahead nonempty later =>
          dsimp only at ahead nonempty later
          obtain ⟨untouched, held⟩ := ih later fun piece met =>
            filled piece (List.mem_cons_of_mem _ met)
          have within := later.within
          have front : (xs.take (extent.opening + 1)).length = extent.opening + 1 :=
            List.length_take_of_le (by omega)
          have length := (filled _ (List.mem_cons_self ..)).length_eq
          have size := length_inside ⟨nonempty, within⟩
          dsimp only at length
          rw [take_stop nonempty, List.append_assoc] at untouched held
          rw [arranged_cons ahead]
          -- Filling the first extent touches only what it covers.
          have same (position : Nat) (other : ¬extent.Covers position) :
              (xs.take (extent.opening + 1) ++
                (objects.flatten ++ arranged xs extent.stop rest))[position]? =
              (xs.take (extent.opening + 1) ++
                (extent.inside xs ++ arranged xs extent.stop rest))[position]? := by
            apply getElem?_of_outside _ length
            simp only [Covers] at other
            omega
          refine ⟨fun position other => ?_, fun piece met => ?_⟩
          · rw [same position (other _ (List.mem_cons_self ..))]
            exact untouched position fun piece met => other piece (List.mem_cons_of_mem _ met)
          · rcases List.mem_cons.mp met with rfl | met
            · rw [inside, List.drop_left' front, List.take_left' (length.trans size)]
            · have behind := later.bounds (List.mem_map_of_mem met)
              rw [← held piece met]
              apply inside_congr
              intro position covers
              apply same
              simp only [Covers] at covers ⊢
              omega

end

section

variable {α : Type} {G : Type} [Random.Generator G]

/-- An order for the objects of each of some extents. -/
def draw (starts : α → Bool) (xs : List α) (extents : List DataExtent) (g : G) :
    List (List (List α)) × G :=
  Random.traverse (fun extent => Random.shuffle (extent.objects starts xs)) extents g

def pieces (starts : α → Bool) (xs : List α) (extents : List DataExtent) (g : G) :
    List (DataExtent × List (List α)) :=
  extents.zip (draw starts xs extents g).1

variable {starts : α → Bool} {xs : List α} {extents : List DataExtent} {g : G}

theorem length_draw (starts : α → Bool) (xs : List α) (extents : List DataExtent) (g : G) :
    (draw starts xs extents g).1.length = extents.length :=
  (Random.traverse_forall₂ (R := fun _ _ => True) (fun _ _ => trivial) extents g).length_eq.symm

theorem map_fst_pieces (starts : α → Bool) (xs : List α) (extents : List DataExtent) (g : G) :
    (pieces starts xs extents g).map (·.1) = extents :=
  List.map_fst_zip (Nat.le_of_eq (length_draw starts xs extents g).symm)

theorem of_mem_pieces {piece : DataExtent × List (List α)}
    (met : piece ∈ pieces starts xs extents g) :
    piece.1 ∈ extents ∧ piece.2.Perm (piece.1.objects starts xs) ∧
      ((piece.1.objects starts xs).length < 2 → piece.2 = piece.1.objects starts xs) := by
  have each : List.Forall₂ (fun extent mixed => mixed.Perm (extent.objects starts xs) ∧
      ((extent.objects starts xs).length < 2 → mixed = extent.objects starts xs)) extents
      (draw starts xs extents g).1 :=
    Random.traverse_forall₂ (fun extent g => ⟨Random.shuffle_perm (extent.objects starts xs) g,
      fun few => by rw [Random.shuffle_of_length_lt_two few]⟩) extents g
  exact ⟨(List.of_mem_zip met).1, (List.forall₂_iff_zip.mp each).2 met⟩

theorem filled_pieces (starts : α → Bool) (xs : List α) (extents : List DataExtent) (g : G) :
    Filled xs (pieces starts xs extents g) := by
  intro piece met
  have perm := (of_mem_pieces met).2.1.flatten
  rwa [objects, flatten_runs] at perm

theorem draw_filter (starts : α → Bool) (xs : List α) (extents : List DataExtent) (g : G) :
    draw starts xs (extents.filter fun extent => 2 ≤ (extent.objects starts xs).length) g =
      (((pieces starts xs extents g).filter fun piece =>
        2 ≤ (piece.1.objects starts xs).length).map (·.2), (draw starts xs extents g).2) := by
  refine Random.traverse_filter ?_ extents g
  intro extent few g
  rw [Random.shuffle_of_length_lt_two (Nat.lt_of_not_le (of_decide_eq_false few))]

end

end DataExtent

namespace SegmentPart

variable {segment : DataSegment} {G : Type} [Random.Generator G]

theorem cut_append {gap : List Line} (closed : ∀ line ∈ gap, segment.isOpenedBy line = false)
    (rest : List Line) : cut segment (gap ++ rest) = gap.map .outside ++ cut segment rest := by
  induction gap with
  | nil => rfl
  | cons line gap ih =>
      have other : ¬segment.isOpenedBy line = true := by simp [closed line (List.mem_cons_self ..)]
      rw [List.cons_append, cut, if_neg other,
        ih fun line member => closed line (List.mem_cons_of_mem _ member)]
      rfl

theorem traverse_outside (gap : List Line) (parts : List SegmentPart) (g : G) :
    Random.traverse shuffle (gap.map .outside ++ parts) g =
      (gap.map (fun line => (.outside line, none)) ++ (Random.traverse shuffle parts g).1,
        (Random.traverse shuffle parts g).2) := by
  induction gap with
  | nil => rfl
  | cons line gap ih =>
      rw [List.map_cons, List.cons_append, Random.traverse, shuffle]
      dsimp only
      rw [ih]
      rfl

omit [Random.Generator G] in
theorem lines_outside (gap : List Line) :
    (gap.map fun line => (outside line, (none : Option ShuffledExtent))).flatMap (·.1.lines) =
        gap ∧
      (gap.map fun line => (outside line, (none : Option ShuffledExtent))).filterMap (·.2) = [] := by
  induction gap with
  | nil => exact ⟨rfl, rfl⟩
  | cons line gap ih =>
      simp only [List.map_cons, List.flatMap_cons, List.filterMap_cons, lines]
      exact ⟨congrArg (line :: ·) ih.1, ih.2⟩

/-- Also an extent without two objects is shuffled: nothing is drawn for it. -/
theorem shuffle_extent (opening : Line) (inside : List Line) (g : G) :
    (extent opening inside).shuffle g =
      ((.extent opening (Random.shuffle (runs Line.isLabel inside) g).1.flatten,
        if (runs Line.isLabel inside).length < 2 then none
        else some ⟨opening.number, (runs Line.isLabel inside).length⟩),
      (Random.shuffle (runs Line.isLabel inside) g).2) := by
  rw [shuffle]
  dsimp only
  split
  · rename_i few
    rw [Random.shuffle_of_length_lt_two few, flatten_runs]
  · rfl

end SegmentPart

namespace DataExtent

variable {segment : DataSegment} {lines : List Line} {cursor : Nat} {extent : DataExtent}

theorem cut_of_next?_none (none : next? segment lines cursor = none) :
    SegmentPart.cut segment (lines.drop cursor) = (lines.drop cursor).map .outside := by
  have closed := Extent.firstFrom?_eq_none (Option.map_eq_none_iff.mp none)
  have whole := SegmentPart.cut_append closed []
  rwa [List.append_nil, SegmentPart.cut, List.append_nil] at whole

theorem cut_of_next? (next : next? segment lines cursor = some extent) :
    ∃ gap line, (lines.drop cursor).take (extent.opening + 1 - cursor) = gap ++ [line] ∧
      line.number = Extent.numberAt lines extent.opening ∧
      SegmentPart.cut segment (lines.drop cursor) = gap.map .outside ++
        .extent line (extent.inside lines) :: SegmentPart.cut segment (lines.drop extent.stop) := by
  obtain ⟨gap, line, rest, split, opens, closed, rfl⟩ := exists_of_next? next
  have opening : lines.drop (cursor + gap.length) = line :: rest := Extent.drop_behind_gap split
  have behind : lines.drop (cursor + gap.length + 1) = rest := by
    rw [← List.drop_drop, opening, List.drop_one, List.tail_cons]
  obtain ⟨held, after, whole, taken, dropped⟩ : ∃ held after, rest = held ++ after ∧
      rest.takeWhile (!·.isBoundary) = held ∧ rest.dropWhile (!·.isBoundary) = after :=
    ⟨_, _, List.takeWhile_append_dropWhile.symm, rfl, rfl⟩
  have left : lines.drop (cursor + gap.length + 1 + held.length) = after := by
    rw [← List.drop_drop, behind, whole, List.drop_left]
  refine ⟨gap, line, ?_, ?_, ?_⟩
  · have length : cursor + gap.length + 1 - cursor = (gap ++ [line]).length := by
      rw [List.length_append, List.length_singleton]
      omega
    rw [split, List.append_cons, length, List.take_left]
  · rw [Extent.numberAt, ← List.head?_drop, opening]
    rfl
  · rw [split, SegmentPart.cut_append closed, SegmentPart.cut, if_pos opens, taken, dropped, inside,
      behind, Nat.add_sub_cancel_left, left, whole, List.take_left]

variable {G : Type} [Random.Generator G]

def report? (lines : List Line) (extent : DataExtent) : Option ShuffledExtent :=
  if (extent.objects Line.isLabel lines).length < 2 then none
  else some ⟨Extent.numberAt lines extent.opening, (extent.objects Line.isLabel lines).length⟩

theorem traverse_cut (segment : DataSegment) (lines : List Line) (cursor : Nat) (g : G) :
    let shuffled := Random.traverse SegmentPart.shuffle
      (SegmentPart.cut segment (lines.drop cursor)) g
    let extents := scan segment lines cursor
    shuffled.1.flatMap (·.1.lines) = arranged lines cursor (pieces Line.isLabel lines extents g) ∧
    shuffled.1.filterMap (·.2) = extents.filterMap (report? lines) ∧
    shuffled.2 = (draw Line.isLabel lines extents g).2 := by
  fun_induction scan segment lines cursor generalizing g with
  | case1 cursor next =>
      have plain := SegmentPart.traverse_outside (lines.drop cursor) [] g
      rw [List.append_nil, ← cut_of_next?_none next] at plain
      obtain ⟨same, silent⟩ := SegmentPart.lines_outside (lines.drop cursor)
      simp only [plain, Random.traverse, List.append_nil, same, silent]
      exact ⟨rfl, rfl, rfl⟩
  | case2 cursor extent next ih =>
      obtain ⟨gap, line, front, number, parts⟩ := cut_of_next? next
      obtain ⟨lines', reports, drawn⟩ :=
        ih (Random.shuffle (extent.objects Line.isLabel lines) g).2
      obtain ⟨same, silent⟩ := SegmentPart.lines_outside gap
      -- The lines up to the opening one, the objects, and what the rest of the extents make.
      simp only [parts, SegmentPart.traverse_outside, Random.traverse, SegmentPart.shuffle_extent,
        List.flatMap_append, List.flatMap_cons, List.filterMap_append, same, silent]
      refine ⟨?_, ?_, drawn⟩
      · rw [pieces, draw, Random.traverse, List.zip_cons_cons, arranged, front]
        simp only [SegmentPart.lines, List.append_assoc, List.cons_append, List.nil_append]
        congr 3
      · have told : (if (runs Line.isLabel (extent.inside lines)).length < 2 then none
            else some ⟨line.number, (runs Line.isLabel (extent.inside lines)).length⟩) =
            report? lines extent := by
          rw [report?, number]
          rfl
        rw [List.filterMap_cons, List.filterMap_cons, List.nil_append]
        dsimp only
        rw [told]
        cases report? lines extent with
        | none => exact reports
        | some report => exact congrArg (report :: ·) reports

section

variable {α : Type} {starts : α → Bool} {xs : List α} {extents : List DataExtent}

theorem arranged_pieces_perm (starts : α → Bool) (placed : Placed xs.length 0 extents) (g : G) :
    (arranged xs 0 (pieces starts xs extents g)).Perm xs := by
  rw [← map_fst_pieces starts xs extents g] at placed
  have perm := arranged_perm placed (filled_pieces starts xs extents g)
  rwa [List.take_zero, List.nil_append] at perm

theorem inside_arranged_pieces (placed : Placed xs.length 0 extents) {g : G}
    {piece : DataExtent × List (List α)} (met : piece ∈ pieces starts xs extents g) :
    piece.1.inside (arranged xs 0 (pieces starts xs extents g)) = piece.2.flatten := by
  rw [← map_fst_pieces starts xs extents g] at placed
  have held := (arranged_spec placed (filled_pieces starts xs extents g)).2 piece met
  rwa [List.take_zero, List.nil_append] at held

theorem getElem?_arranged_pieces (placed : Placed xs.length 0 extents) (g : G) {position : Nat}
    (outside : ∀ extent ∈ extents, 2 ≤ (extent.objects starts xs).length →
      ¬extent.Covers position) :
    (arranged xs 0 (pieces starts xs extents g))[position]? = xs[position]? := by
  by_cases covered : ∃ piece ∈ pieces starts xs extents g, piece.1.Covers position
  · obtain ⟨piece, met, covers⟩ := covered
    obtain ⟨found, -, same⟩ := of_mem_pieces met
    -- It is covered, but by an extent that is filled as it was.
    have few : (piece.1.objects starts xs).length < 2 := by
      by_contra many
      exact outside piece.1 found (Nat.le_of_not_lt many) covers
    have held := inside_arranged_pieces placed met
    rw [same few, objects, flatten_runs] at held
    rw [← getElem?_inside covers, held, getElem?_inside covers]
  · rw [← map_fst_pieces starts xs extents g] at placed
    have untouched := (arranged_spec placed (filled_pieces starts xs extents g)).1 position
      fun piece met covers => covered ⟨piece, met, covers⟩
    rwa [List.take_zero, List.nil_append] at untouched

theorem forall₂_draw (placed : Placed xs.length 0 extents) (g : G) :
    let several := extents.filter fun extent => 2 ≤ (extent.objects starts xs).length
    List.Forall₂ (fun extent mixed => mixed.Perm (extent.objects starts xs) ∧
        extent.inside (arranged xs 0 (pieces starts xs extents g)) = mixed.flatten)
      several (draw starts xs several g).1 := by
  have firsts := congrArg (List.filter fun extent => 2 ≤ (extent.objects starts xs).length)
    (map_fst_pieces starts xs extents g)
  rw [List.filter_map] at firsts
  dsimp only
  rw [draw_filter, ← firsts, List.forall₂_map_left_iff, List.forall₂_map_right_iff]
  apply List.forall₂_same.mpr
  intro piece met
  have listed := (List.mem_filter.mp met).1
  exact ⟨(of_mem_pieces listed).2.1, inside_arranged_pieces placed listed⟩

end

end DataExtent

namespace Line

theorem getElem?_renumber (start : Nat) (lines : List Line) (position : Nat) :
    (renumber start lines)[position]? =
      lines[position]?.map fun line => { line with number := start + position } := by
  induction lines generalizing start position with
  | nil => rfl
  | cons line rest ih =>
      cases position with
      | zero => rfl
      | succ position =>
          rw [renumber, List.getElem?_cons_succ, ih, List.getElem?_cons_succ, Nat.add_assoc,
            Nat.add_comm 1]

theorem renumber_of_dense {start : Nat} {lines : List Line}
    (dense : lines.map (·.number) = List.range' start lines.length) :
    renumber start lines = lines := by
  induction lines generalizing start with
  | nil => rfl
  | cons line rest ih =>
      rw [List.map_cons, List.length_cons, List.range'_succ, List.cons.injEq] at dense
      rw [renumber, ih dense.2, ← dense.1]

end Line

namespace Section

variable {G : Type} [Random.Generator G]

open DataExtent in
theorem placed_extents (segment : DataSegment) (sec : Section) :
    Placed sec.lines.length 0 (scan segment sec.lines 0) :=
  placed_scan segment (Nat.zero_le _)

open DataExtent in
theorem shuffleSegment_eq_arranged (segment : DataSegment) (sec : Section) (g : G) :
    let extents := scan segment sec.lines 0
    sec.shuffleSegment segment g =
      ((sec.edit (arranged sec.lines 0 (pieces Line.isLabel sec.lines extents g)),
        extents.filterMap (report? sec.lines)), (draw Line.isLabel sec.lines extents g).2) := by
  obtain ⟨lines, reports, drawn⟩ := traverse_cut segment sec.lines 0 g
  rw [List.drop_zero] at lines reports drawn
  rw [shuffleSegment]
  dsimp only
  rw [lines, reports, drawn]

open DataExtent in
theorem contents_shuffleSegment (segment : DataSegment) (sec : Section) (g : G) :
    (sec.shuffleSegment segment g).1.1.contents =
      (arranged sec.lines 0 (pieces Line.isLabel sec.lines (scan segment sec.lines 0) g)).map
        (·.content) := by
  rw [shuffleSegment_eq_arranged, contents_edit]

open DataExtent in
/-- The objects of every extent are permuted as a whole, and nothing else changes. The extents are
    those of the section as it was. Each of them that has two objects or more is filled with them in
    the order that is drawn for it, and reported; for any other one nothing is drawn, and it stays as
    it was, like all lines outside. -/
theorem shuffleSegment_extentwise {sec : Section}
    (dense : sec.lines.map (·.number) = List.range' sec.firstNumber sec.lines.length)
    (segment : DataSegment) (g : G) :
    let after := (sec.shuffleSegment segment g).1.1
    let extents := scan segment sec.lines 0
    let objects := fun extent : DataExtent => extent.objects Line.isLabel sec.lines
    let several := extents.filter fun extent => 2 ≤ (objects extent).length
    let drawn := Random.traverse (fun extent => Random.shuffle (objects extent)) several g
    Checked.shuffleSegment segment sec g = .ok (sec.shuffleSegment segment g) ∧
    Placed sec.lines.length 0 extents ∧
    (∀ extent ∈ extents, (objects extent).flatten = extent.inside sec.lines ∧
      IsCut Line.isLabel (objects extent)) ∧
    (sec.shuffleSegment segment g).1.2 = several.map (fun extent =>
      ⟨sec.firstNumber + extent.opening, (objects extent).length⟩) ∧
    (sec.shuffleSegment segment g).2 = drawn.2 ∧
    List.Forall₂ (fun extent mixed => mixed.Perm (objects extent) ∧
      (extent.inside after.lines).map (·.content) = mixed.flatten.map (·.content))
      several drawn.1 ∧
    (∀ position, (∀ extent ∈ several, ¬extent.Covers position) →
      after.lines[position]? = sec.lines[position]?) ∧
    (∀ extent ∈ extents,
      after.lines[extent.opening]? = sec.lines[extent.opening]?) ∧
    after.lines.length = sec.lines.length ∧
    after.lines.head? = sec.lines.head? ∧
    after.lines.map (·.number) = List.range' sec.firstNumber sec.lines.length := by
  intro after extents objects several drawn
  have shuffled := shuffleSegment_eq_arranged segment sec g
  have lines : after.lines = Line.renumber sec.firstNumber
      (arranged sec.lines 0 (pieces Line.isLabel sec.lines extents g)) := by
    rw [show after = _ from congrArg (·.1.1) shuffled]
    rfl
  have placed : Placed sec.lines.length 0 extents := placed_extents segment sec
  have unmoved : ∀ position, (∀ extent ∈ several, ¬extent.Covers position) →
      after.lines[position]? = sec.lines[position]? := by
    intro position outside
    have kept : (arranged sec.lines 0 (pieces Line.isLabel sec.lines extents g))[position]? =
        sec.lines[position]? := by
      apply getElem?_arranged_pieces placed
      intro extent met many
      exact outside extent (List.mem_filter.mpr ⟨met, decide_eq_true many⟩)
    rw [lines, Line.getElem?_renumber, kept, ← Line.getElem?_renumber, Line.renumber_of_dense dense]
  have contents : after.lines.map (·.content) =
      (arranged sec.lines 0 (pieces Line.isLabel sec.lines extents g)).map (·.content) :=
    contents_shuffleSegment segment sec g
  have numbers : after.lines.map (·.number) =
      List.range' sec.firstNumber sec.lines.length := by
    rw [lines, Line.number_renumber, (arranged_pieces_perm Line.isLabel placed g).length_eq]
  refine ⟨Checked.shuffleSegment_eq segment sec g, placed,
    fun extent _ => ⟨flatten_runs _ _, isCut_runs _ _⟩, ?_, ?_, ?_, unmoved, ?_, ?_, ?_, numbers⟩
  · rw [shuffled, ← List.filterMap_eq_map, List.filterMap_filter]
    apply List.filterMap_congr
    intro extent met
    have inner := placed.bounds met
    rw [report?, Extent.numberAt_of_dense dense (by omega)]
    by_cases few : (objects extent).length < 2
    · rw [if_pos few, if_neg fun many => Nat.not_le_of_lt few (of_decide_eq_true many)]
    · rw [if_neg few, if_pos (decide_eq_true (Nat.le_of_not_lt few))]
      rfl
  · rw [shuffled]
    exact (congrArg Prod.snd (draw_filter Line.isLabel sec.lines extents g)).symm
  · refine (forall₂_draw placed g).imp fun extent mixed held => ⟨held.1, ?_⟩
    rw [← inside_map, contents, inside_map, held.2]
  · intro extent met
    apply unmoved
    intro other listed
    exact placed.not_covers_opening met (List.mem_filter.mp listed).1
  · rw [← List.length_map (·.number), numbers, List.length_range']
  · rw [List.head?_eq_getElem?, List.head?_eq_getElem?]
    exact unmoved 0 fun extent _ covers => absurd covers.1 (Nat.not_lt_zero _)

/-- Between two extents with two objects each, one whose opening line is no boundary. -/
theorem shuffleSegment_extentwise_around_single :
    let sec := ofLines .gcc (Line.numbered 7 ["\t.data", "a:", "\t.long 1", "b:", "\t.long 2",
      "\t.text", "\t.section data", "c:", "\t.long 3", "\t.data", "\t.align 4", "d:", "\t.long 4"])
    let shuffled := sec.shuffleSegment .data Listing.swappingStream
    sec.lines.map (·.number) = List.range' sec.firstNumber sec.lines.length ∧
    DataExtent.scan .data sec.lines 0 = [⟨0, 5⟩, ⟨6, 9⟩, ⟨9, 13⟩] ∧
    shuffled.1.1.contents = ["\t.data", "b:", "\t.long 2", "a:", "\t.long 1", "\t.text",
      "\t.section data", "c:", "\t.long 3", "\t.data", "d:", "\t.long 4", "\t.align 4"] ∧
    shuffled.1.2 = [⟨7, 2⟩, ⟨16, 2⟩] ∧
    shuffled.1.1.lines[7]? = some ⟨"c:", 14⟩ := by
  intro sec shuffled
  have dense : sec.lines.map (·.number) = List.range' sec.firstNumber sec.lines.length := by decide
  have extents : DataExtent.scan .data sec.lines 0 = [⟨0, 5⟩, ⟨6, 9⟩, ⟨9, 13⟩] := by
    decide +kernel
  obtain ⟨-, -, -, told, -, -, unmoved, -⟩ :=
    shuffleSegment_extentwise dense .data Listing.swappingStream
  refine ⟨dense, extents, by decide +kernel, ?_, ?_⟩
  · rw [told, extents]
    decide +kernel
  · rw [unmoved 7 (by rw [extents]; decide +kernel)]
    rfl

end Section

end AsmLayout
