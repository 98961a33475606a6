import AsmLayout.Proofs.Checked.Shuffle
import AsmLayout.Proofs.Listing.Arrangement

/-! # Reordering sections by positions

Every section is taken out of its place and put into another one, so between the two it stands
nowhere. Here a place from which nothing can be taken any more is a fault, and so is one that is
filled already, or that is never filled.
-/

namespace AsmLayout.Checked

/-- The places that sections have been taken from, and those that they have been put into. -/
structure Moving where
  former : List (Option Section)
  later : List (Option Section)

/-- Move the section of one place into another. -/
def move (target source : Nat) (state : Moving) : Except Fault Moving := do
  let taken ← get state.former source
  let filled ← get state.later target
  if taken.isNone || filled.isSome then throw .lost
  else return ⟨← set state.former source none, ← set state.later target taken⟩

/-- Move the sections of some places into others. -/
def moveAll (targets sources : List Nat) (state : Moving) : Except Fault Moving :=
  (targets.zip sources).foldlM (fun state (target, source) => move target source state) state

/-- The sections with those from `sources` in the places `positions`, the others unmoved. -/
def arrange (sections : List Section) (positions sources : List Nat) :
    Except Fault (List Section) := do
  let fixed := (List.range sections.length).filter (· ∉ positions)
  let state ← moveAll fixed fixed ⟨sections.map some, sections.map fun _ => none⟩
  let state ← moveAll positions sources state
  if state.former.all Option.isNone && state.later.all Option.isSome then
    return state.later.filterMap id
  else throw .lost

def movable (listing : Listing) : Except Fault (List Nat) :=
  if listing.sections.length < 3 then .ok []
  else do
    let last ← subtract listing.sections.length 1
    return (List.range' 1 (last - 1)).filter fun position => some position ≠ listing.pinned?

section

variable {G : Type} [Random.Generator G]

def drawOrder : StructureMode → List Nat → G → Except Fault (List Nat × G)
  | .shuffle, positions, g => shuffle positions g
  | .smallChanges, positions, g => .ok (Listing.swapPairs positions g)

def reorder (mode : StructureMode) (listing : Listing) (g : G) :
    Except Fault ((Listing × OrderOutcome) × G) := do
  let positions ← movable listing
  if positions.length < 2 then return ((listing, .tooFew positions.length), g)
  else
    let (sources, g) ← drawOrder mode positions g
    if sources = positions then return ((listing, .kept), g)
    else
      let arranged ← arrange listing.sections positions sources
      return (({ listing with sections := arranged }.renumber, .reordered positions sources), g)

end

theorem movable_eq (listing : Listing) : movable listing = .ok listing.movable := by
  unfold movable Listing.movable
  split
  next few =>
    have only : ∀ position ∈ List.range (listing.sections.length - 1), position = 0 := by
      intro position member
      have := List.mem_range.mp member
      omega
    rw [List.filter_eq_nil_iff.mpr]
    intro position member
    simp [only position member]
  next many =>
    obtain ⟨inner, length⟩ : ∃ inner, listing.sections.length = inner + 2 :=
      Nat.exists_eq_add_of_le' (by omega)
    have last : subtract (inner + 2) 1 = .ok (inner + 1) := subtract_of_le (by omega)
    rw [length, last]
    simp only [bind, Except.bind, pure, Except.pure, Nat.add_sub_cancel, Nat.reduceSubDiff,
      List.range_eq_range', List.range'_succ, List.filter_cons]
    congr 1
    apply List.filter_congr
    intro position member
    have := List.mem_range'_1.mp member
    simp
    omega

section

variable (sections : List Section) (origin : Nat → Nat)

/-- The state in which some places have got their sections. -/
def Moving.of (done : List Nat) : Moving where
  former := (List.range sections.length).map fun place =>
    if place ∈ done.map origin then none else sections[place]?
  later := (List.range sections.length).map fun place =>
    if place ∈ done then sections[origin place]? else none

theorem get_tabulated {α : Type} (f : Nat → α) {count place : Nat} (inside : place < count) :
    get ((List.range count).map f) place = .ok (f place) := by
  rw [get, List.getElem?_map, List.getElem?_range inside, Option.map_some]

theorem set_tabulated {α : Type} (f : Nat → α) {count place : Nat} (inside : place < count)
    (x : α) :
    set ((List.range count).map f) place x =
      .ok ((List.range count).map (Function.update f place x)) := by
  rw [set, if_pos (by simpa using inside)]
  congr 1
  apply List.ext_getElem (by simp)
  intro other there _
  simp only [List.getElem_set, List.getElem_map, List.getElem_range, Function.update_apply]
  simp only [eq_comm]

theorem Moving.of_nil :
    Moving.of sections origin [] = ⟨sections.map some, sections.map fun _ => none⟩ := by
  simp [Moving.of, map_some_eq]

variable {sections origin}

theorem Moving.former_of {done : List Nat}
    (taken : ∀ place < sections.length, place ∈ done.map origin) :
    (Moving.of sections origin done).former.all Option.isNone = true := by
  simp only [Moving.of, List.all_map, List.all_eq_true]
  intro place member
  rw [Function.comp_apply, if_pos (taken place (List.mem_range.mp member)), Option.isNone_none]

theorem Moving.later_of {done : List Nat} (filled : ∀ place < sections.length, place ∈ done) :
    (Moving.of sections origin done).later =
      (List.range sections.length).map fun place => sections[origin place]? := by
  apply List.map_congr_left
  intro place member
  exact if_pos (filled place (List.mem_range.mp member))

theorem move_of {done : List Nat} {place : Nat} (inside : place < sections.length)
    (known : origin place < sections.length) (unfilled : place ∉ done)
    (untaken : origin place ∉ done.map origin) :
    move place (origin place) (Moving.of sections origin done) =
      .ok (Moving.of sections origin (done ++ [place])) := by
  have there : sections[origin place]? = some sections[origin place] :=
    List.getElem?_eq_getElem known
  simp only [move, Moving.of, get_tabulated _ known, get_tabulated _ inside, set_tabulated _ known,
    set_tabulated _ inside, if_neg unfilled, if_neg untaken, there, bind, Except.bind, pure,
    Except.pure, Option.isNone_some, Option.isSome_none, Bool.or_self, Bool.false_eq_true, if_false]
  congr 3
  · funext other
    rw [List.map_append, List.map_singleton]
    by_cases same : other = origin place
    · rw [same, Function.update_self, if_pos (by simp)]
    · rw [Function.update_of_ne same]
      simp only [List.mem_append, List.mem_singleton, same, or_false]
  · funext other
    by_cases same : other = place
    · rw [same, Function.update_self, if_pos (by simp), there]
    · rw [Function.update_of_ne same]
      simp only [List.mem_append, List.mem_singleton, same, or_false]

theorem moveAll_of (done : List Nat) {places sources : List Nat}
    (sent : places.map origin = sources)
    (inside : ∀ place ∈ places, place < sections.length ∧ origin place < sections.length)
    (unfilled : (done ++ places).Nodup) (untaken : ((done ++ places).map origin).Nodup) :
    moveAll places sources (Moving.of sections origin done) =
      .ok (Moving.of sections origin (done ++ places)) := by
  induction places generalizing done sources with
  | nil => rw [List.append_nil]; rfl
  | cons place places ih =>
      subst sent
      obtain ⟨bound, known⟩ := inside place List.mem_cons_self
      have fresh : place ∉ done := by
        intro member
        exact (List.nodup_append.mp unfilled).2.2 place member place List.mem_cons_self rfl
      have untouched : origin place ∉ done.map origin := by
        intro member
        rw [List.map_append] at untaken
        exact (List.nodup_append.mp untaken).2.2 _ member _ List.mem_cons_self rfl
      rw [List.append_cons] at unfilled untaken ⊢
      rw [moveAll, List.map_cons, List.zip_cons_cons, List.foldlM_cons]
      dsimp only
      rw [move_of bound known fresh untouched]
      have inside' := fun other member => inside other (List.mem_cons_of_mem place member)
      exact ih _ rfl inside' unfilled untaken

end

/-- No section is taken twice, and each one is put back. -/
theorem arrange_eq (sections : List Section) {positions sources : List Nat}
    (nodup : positions.Nodup) (inside : ∀ position ∈ positions, position < sections.length)
    (drawn : sources.Perm positions) :
    arrange sections positions sources = .ok (Listing.arrange sections positions sources) := by
  let origin := (OrderOutcome.reordered positions sources).origin
  let fixed := (List.range sections.length).filter (· ∉ positions)
  have places : (List.range sections.length).Perm (fixed ++ positions) :=
    OrderOutcome.range_perm nodup inside
  have origins : ((List.range sections.length).map origin).Perm (List.range sections.length) :=
    OrderOutcome.map_origin_perm nodup inside drawn
  have listed : ∀ place < sections.length, place ∈ fixed ++ positions := by
    intro place bound
    exact places.mem_iff.mp (List.mem_range.mpr bound)
  have taken : ∀ place < sections.length, place ∈ (fixed ++ positions).map origin := by
    intro place bound
    exact ((places.map origin).symm.trans origins).mem_iff.mpr (List.mem_range.mpr bound)
  have known : ∀ place < sections.length, origin place < sections.length := by
    intro place bound
    exact List.mem_range.mp (origins.mem_iff.mp (List.mem_map_of_mem (List.mem_range.mpr bound)))
  have within : ∀ place ∈ fixed ++ positions,
      place < sections.length ∧ origin place < sections.length := by
    intro place member
    have bound := List.mem_range.mp (places.mem_iff.mpr member)
    exact ⟨bound, known place bound⟩
  have each : (fixed ++ positions).Nodup := places.nodup_iff.mp List.nodup_range
  have once : ((fixed ++ positions).map origin).Nodup :=
    (places.map origin).nodup_iff.mp (origins.nodup_iff.mpr List.nodup_range)
  have staying : moveAll fixed fixed (Moving.of sections origin []) =
      .ok (Moving.of sections origin fixed) :=
    moveAll_of [] (OrderOutcome.map_origin_fixed _)
      (fun place member => within place (List.mem_append_left _ member))
      (List.nodup_append.mp each).1 (List.nodup_append.mp (List.map_append ▸ once)).1
  have moving : moveAll positions sources (Moving.of sections origin fixed) =
      .ok (Moving.of sections origin (fixed ++ positions)) :=
    moveAll_of fixed (OrderOutcome.map_origin_positions nodup drawn.length_eq.symm)
      (fun place member => within place (List.mem_append_right _ member)) each once
  rw [arrange, ← Moving.of_nil sections origin, staying]
  simp only [bind, Except.bind, moving, Moving.former_of taken, Moving.later_of listed]
  rw [← Listing.map_some_arrange known]
  simp [pure, Except.pure]

section

variable {G : Type} [Random.Generator G]

theorem drawOrder_eq (mode : StructureMode) (positions : List Nat) (g : G) :
    drawOrder mode positions g = .ok (Listing.drawOrder mode positions g) := by
  cases mode with
  | shuffle => exact shuffle_eq positions g
  | smallChanges => rfl

theorem reorder_eq (mode : StructureMode) (listing : Listing) (g : G) :
    reorder mode listing g = .ok (listing.reorder mode g) := by
  have arranged := arrange_eq listing.sections listing.nodup_movable
    (fun _ => Listing.lt_of_mem_movable) (Listing.drawOrder_perm mode listing.movable g)
  rw [reorder, movable_eq, Listing.reorder]
  simp only [bind, Except.bind, drawOrder_eq]
  split
  next few => rfl
  next many =>
    split
    next same => rfl
    next other => rw [arranged]; rfl

end

end AsmLayout.Checked
