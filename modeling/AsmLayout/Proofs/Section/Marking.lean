import AsmLayout.Proofs.Section.Patching

/-! # Lines that padding puts in, marked

Padding is told over with a mark on every line: whether it was there before or was put in, and what
for. Without the marks this is the padded section. Behind the first frame push a release stands in
front of exactly the frame pops that a return follows before any other frame pop does.
-/

namespace AsmLayout

/-- Where a line of a padded section comes from. -/
inductive Mark where
  /-- It was there, or a leave was written out to it. -/
  | kept
  /-- It grows a frame. -/
  | grown
  /-- It releases a frame. -/
  | released
  deriving Repr, DecidableEq

/-- A line of a padded section with its mark. -/
structure Marked where
  line : Line
  mark : Mark
  deriving Repr, DecidableEq

namespace Marked

def keep (line : Line) : Marked := ⟨line, .kept⟩

def kept (marked : List Marked) : List Line :=
  (marked.filter (·.mark = .kept)).map (·.line)

theorem kept_append (xs ys : List Marked) : kept (xs ++ ys) = kept xs ++ kept ys := by
  rw [kept, List.filter_append, List.map_append, kept, kept]

theorem kept_cons_keep (line : Line) (rest : List Marked) :
    kept (keep line :: rest) = line :: kept rest := by
  simp [kept, keep]

theorem kept_cons_added {item : Marked} (added : item.mark ≠ .kept) (rest : List Marked) :
    kept (item :: rest) = kept rest := by
  simp [kept, added]

theorem kept_map_keep (lines : List Line) : kept (lines.map keep) = lines := by
  induction lines with
  | nil => rfl
  | cons line rest ih => rw [List.map_cons, kept_cons_keep, ih]

theorem map_line_keep (lines : List Line) : (lines.map keep).map (·.line) = lines := by
  rw [List.map_map]
  exact List.map_id lines

end Marked

namespace Frame

open Marked

/-- Whether a return comes before the next frame pop. -/
def returnsNext : List Line → Bool
  | [] => false
  | line :: rest => line.isReturn || (!line.isFramePop && returnsNext rest)

/-- Put a release in front of the frame pops that a return follows. -/
def markReleases (amount : Nat) : List Line → List Marked
  | [] => []
  | line :: rest =>
    if line.isFramePop && returnsNext rest then
      ⟨line.withContent (release amount), .released⟩ :: keep line :: markReleases amount rest
    else keep line :: markReleases amount rest

/-- A function with its leaves written out, a growth behind its first frame push and releases behind
    that. -/
def mark (amount : Nat) (body : List Line) : List Marked :=
  match splitAtFirst? Line.isFramePush (expandLeaves 0 body) with
  | none => (expandLeaves 0 body).map keep
  | some (before, push, rest) =>
    before.map keep ++ keep push :: ⟨push.withContent (growth amount), .grown⟩ ::
      markReleases amount rest

variable {front back : List Line} {line : Line}

theorem returnsNext_of_pop (returnless : ∀ other ∈ front, other.isReturn = false)
    (pops : line.isFramePop = true) : returnsNext (front ++ line :: back) = false := by
  have other : line.isReturn = false := by
    apply eq_false_of_ne_true
    intro returns
    rw [isFramePop_of_isReturn returns] at pops
    contradiction
  induction front with
  | nil => rw [List.nil_append, returnsNext, other, pops]; rfl
  | cons first front ih =>
      rw [List.cons_append, returnsNext, returnless first (List.mem_cons_self ..),
        ih fun other member => returnless other (List.mem_cons_of_mem _ member), Bool.and_false]
      rfl

theorem returnsNext_of_return (popless : ∀ other ∈ front, other.isFramePop = false)
    (returns : line.isReturn = true) : returnsNext (front ++ line :: back) = true := by
  induction front with
  | nil => rw [List.nil_append, returnsNext, returns, Bool.true_or]
  | cons first front ih =>
      rw [List.cons_append, returnsNext, popless first (List.mem_cons_self ..),
        ih fun other member => popless other (List.mem_cons_of_mem _ member)]
      exact Bool.or_true _

theorem returnsNext_of_returnless (returnless : ∀ other ∈ front, other.isReturn = false) :
    returnsNext front = false := by
  induction front with
  | nil => rfl
  | cons first front ih =>
      rw [returnsNext, returnless first (List.mem_cons_self ..),
        ih fun other member => returnless other (List.mem_cons_of_mem _ member), Bool.and_false]
      rfl

theorem markReleases_of_not (unreturned : (line.isFramePop && returnsNext back) = false)
    (amount : Nat) : markReleases amount (line :: back) = keep line :: markReleases amount back := by
  rw [markReleases, if_neg (by simp [unreturned])]

theorem markReleases_of_popless (popless : ∀ other ∈ front, other.isFramePop = false)
    (amount : Nat) :
    markReleases amount (front ++ back) = front.map keep ++ markReleases amount back := by
  induction front with
  | nil => rfl
  | cons first front ih =>
      have own := popless first (List.mem_cons_self ..)
      rw [List.cons_append, markReleases_of_not (by rw [own, Bool.false_and]),
        ih fun other member => popless other (List.mem_cons_of_mem _ member)]
      rfl

theorem markReleases_of_pop (returnless : ∀ other ∈ front, other.isReturn = false)
    (pops : line.isFramePop = true) (amount : Nat) :
    markReleases amount (front ++ line :: back) =
      front.map keep ++ markReleases amount (line :: back) := by
  induction front with
  | nil => rfl
  | cons first front ih =>
      have later := fun other member => returnless other (List.mem_cons_of_mem first member)
      rw [List.cons_append, markReleases_of_not (by rw [returnsNext_of_pop later pops, Bool.and_false]),
        ih later]
      rfl

theorem markReleases_of_returnless (returnless : ∀ other ∈ front, other.isReturn = false)
    (amount : Nat) : markReleases amount front = front.map keep := by
  induction front with
  | nil => rfl
  | cons first front ih =>
      have later := fun other member => returnless other (List.mem_cons_of_mem first member)
      rw [markReleases_of_not (by rw [returnsNext_of_returnless later, Bool.and_false]), ih later]
      rfl

theorem kept_markReleases (amount : Nat) (lines : List Line) :
    kept (markReleases amount lines) = lines := by
  fun_induction markReleases amount lines with
  | case1 => rfl
  | case2 line rest _ ih =>
      rw [kept_cons_added (by simp), kept_cons_keep, ih]
  | case3 line rest _ ih => rw [kept_cons_keep, ih]

/-- Patching puts in what is marked as a release, once for every return. -/
theorem markReleases_of_patchReturns {function : String} {amount returns : Nat}
    {lines patched : List Line} (closed : Closed lines)
    (patches : patchReturns function amount lines = .ok (patched, returns)) :
    (markReleases amount lines).map (·.line) = patched ∧
      (markReleases amount lines).countP (·.mark = .released) = returns := by
  fun_induction patchReturns function amount lines generalizing patched returns with
  | case1 lines none =>
      cases patches
      rw [markReleases_of_returnless (not_of_splitAtFirst?_eq_none closed none), map_line_keep,
        List.countP_map]
      exact ⟨rfl, List.countP_eq_zero.mpr (by simp [keep])⟩
  | case2 => contradiction
  | case3 => contradiction
  | case4 lines inside ret rest first before pop after last patched' returns' patches' ih =>
      cases patches
      obtain ⟨lines', count⟩ := ih (closed.of_splitAtFirst? first) patches'
      obtain ⟨whole, returned⟩ := eq_of_splitAtFirst? first
      obtain ⟨stretch, popped⟩ := eq_of_splitAtLast? last
      have returnless : ∀ line ∈ before, line.isReturn = false := by
        intro line member
        apply not_of_splitAtFirst? first line
        rw [stretch]
        exact List.mem_append_left _ member
      have popless := not_of_splitAtLast? last
      -- The pop that is patched is the last one in front of the return.
      have follows : returnsNext (after ++ ret :: rest) = true := returnsNext_of_return popless returned
      have silent : ret.isFramePop = false := isFramePop_of_isReturn returned
      have marks : markReleases amount lines = before.map keep ++
          ⟨pop.withContent (release amount), .released⟩ :: keep pop ::
            (after.map keep ++ keep ret :: markReleases amount rest) := by
        rw [whole, stretch, List.append_assoc, List.cons_append, markReleases_of_pop returnless popped,
          markReleases, if_pos (by rw [popped, follows]; rfl), markReleases_of_popless popless,
          markReleases_of_not (by rw [silent, Bool.false_and])]
      rw [marks]
      constructor
      · simp only [List.map_append, List.map_cons, map_line_keep, lines', keep, List.append_assoc,
          List.cons_append]
      · have unmarked (lines : List Line) : (lines.map keep).countP (·.mark = .released) = 0 := by
          rw [List.countP_map]
          exact List.countP_eq_zero.mpr (by simp [keep])
        simp only [List.countP_append, List.countP_cons, unmarked, count, keep]
        simp

theorem mark_of_pad {dialect : Dialect} {amount : Nat} {body : List Line} {padded : Padded}
    (closed : Closed body) (pads : pad dialect amount body = .ok padded) :
    ∃ before push rest, splitAtFirst? Line.isFramePush (expandLeaves 0 body) =
        some (before, push, rest) ∧
      Closed rest ∧
      padded.lines = before ++ push :: push.withContent (growth amount) ::
        (markReleases amount rest).map (·.line) ∧
      padded.returns = (markReleases amount rest).countP (·.mark = .released) ∧
      firstUnpatched? amount (push.withContent (growth amount))
        ((markReleases amount rest).map (·.line)) = none := by
  simp only [pad] at pads
  split at pads
  · contradiction
  · split at pads
    · contradiction
    · rename_i before push rest prologue
      split at pads
      · contradiction
      · rename_i patched returns patches
        split at pads
        · contradiction
        · rename_i clean
          cases pads
          have behind := (closed_expandLeaves closed 0).of_splitAtFirst? prologue
          obtain ⟨rfl, rfl⟩ := markReleases_of_patchReturns behind patches
          exact ⟨before, push, rest, prologue, behind, rfl, rfl, clean⟩

end Frame

namespace FramePart

open Marked

def mark (dialect : Dialect) (amount : Nat) : FramePart → List Marked
  | outside line => [keep line]
  | orphan line => [keep line]
  | function body =>
    match Frame.pad dialect amount body with
    | .ok _ => Frame.mark amount body
    | .error _ => body.map keep

/-- The lines of a part, with leaves written out where it is padded. -/
def written (dialect : Dialect) (amount : Nat) : FramePart → List Line
  | outside line => [line]
  | orphan line => [line]
  | function body =>
    match Frame.pad dialect amount body with
    | .ok _ => Frame.expandLeaves 0 body
    | .error _ => body

theorem closed_throughEnd (lines : List Line) : Frame.Closed (throughEnd lines).1 := by
  fun_induction throughEnd lines with
  | case1 => simp [Frame.Closed]
  | case2 line rest _ => simp [Frame.Closed]
  | case3 line rest open' body after through ih =>
      rw [through] at ih
      exact .cons (eq_false_of_ne_true open') ih

theorem closed_of_mem_cut {lines body : List Line} (met : function body ∈ cut lines) :
    Frame.Closed body ∧ body.head?.any Line.isFunctionLabel = true ∧
      ∀ line ∈ body.head?, line.isFunctionEnd = false := by
  fun_induction cut lines with
  | case1 => contradiction
  | case2 line rest _ ih => exact ih (by simpa using met)
  | case3 line rest open' labels ih =>
      rcases List.mem_cons.mp met with own | later
      · cases own
        have open' := eq_false_of_ne_true open'
        refine ⟨.cons open' (closed_throughEnd rest), labels, ?_⟩
        intro line' first
        cases first
        exact open'
      · exact ih later
  | case4 line rest _ _ ih => exact ih (by simpa using met)

variable {dialect : Dialect} {amount : Nat}

theorem kept_mark (part : FramePart) :
    kept (part.mark dialect amount) = part.written dialect amount := by
  cases part with
  | outside line => rfl
  | orphan line => rfl
  | function body =>
      rw [mark, written]
      cases Frame.pad dialect amount body with
      | error reason => exact kept_map_keep body
      | ok padded =>
          dsimp only
          rw [Frame.mark]
          split
          · exact kept_map_keep _
          · rename_i prologue
            rw [(Frame.eq_of_splitAtFirst? prologue).1, kept_append, kept_map_keep, kept_cons_keep,
              kept_cons_added (by simp), Frame.kept_markReleases]

theorem map_line_mark {part : FramePart} {lines : List Line} (met : part ∈ cut lines) :
    (part.mark dialect amount).map (·.line) = (part.pad dialect amount).1 := by
  cases part with
  | outside line => rfl
  | orphan line => rfl
  | function body =>
      rw [mark, pad]
      cases pads : Frame.pad dialect amount body with
      | error reason => exact map_line_keep body
      | ok padded =>
          obtain ⟨before, push, rest, prologue, -, written, -⟩ :=
            Frame.mark_of_pad (closed_of_mem_cut met).1 pads
          simp only [Frame.mark, prologue, written, List.map_append, List.map_cons, map_line_keep,
            keep]

end FramePart

def Section.marked (amount : Nat) (sec : Section) : List Marked :=
  (FramePart.cut sec.lines).flatMap (FramePart.mark sec.dialect (alignDown amount))

theorem Section.kept_marked (amount : Nat) (sec : Section) :
    Marked.kept (sec.marked amount) = (FramePart.cut sec.lines).flatMap
      (FramePart.written sec.dialect (alignDown amount)) := by
  rw [marked]
  induction FramePart.cut sec.lines with
  | nil => rfl
  | cons part rest ih =>
      rw [List.flatMap_cons, Marked.kept_append, FramePart.kept_mark, ih, List.flatMap_cons]

theorem Section.contents_padFrames (amount : Nat) (sec : Section) :
    (sec.padFrames amount).1.contents = (sec.marked amount).map (·.line.content) := by
  have parts : (FramePart.cut sec.lines).flatMap
        (fun part => (part.mark sec.dialect (alignDown amount)).map (·.line)) =
      (FramePart.cut sec.lines).flatMap (fun part => (part.pad sec.dialect (alignDown amount)).1) :=
    List.flatMap_congr fun part met => FramePart.map_line_mark met
  have lines : (sec.marked amount).map (·.line) =
      ((FramePart.cut sec.lines).map (FramePart.pad sec.dialect (alignDown amount))).flatMap
        (·.1) := by
    rw [marked, List.map_flatMap, parts, List.flatMap_map]
  rw [padFrames, contents_edit, ← lines, List.map_map]
  rfl

end AsmLayout
