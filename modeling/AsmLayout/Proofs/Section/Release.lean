import AsmLayout.Proofs.Section.Marking

/-! # Frame pops and their releases

Behind the frame push of a padded function every frame pop that a return follows has a release of its
own in front. Whether another frame pop is left over is asked of the text in front of it, so it goes
unnoticed behind a line of the function's own that reads like a release, and nowhere else.
-/

namespace AsmLayout

namespace Frame

open Marked

variable {amount : Nat} {lines : List Line}

theorem getLast?_any_cons {α : Type} {p : α → Bool} {x : α} (other : p x = false) (xs : List α) :
    (x :: xs).getLast?.any p = xs.getLast?.any p := by
  cases xs with
  | nil => exact other
  | cons y xs => rw [List.getLast?_cons_cons]

/-- A frame pop stands behind a release that was put in exactly if a return follows it. -/
theorem released_iff_returnsNext {front back : List Marked} {pop : Line}
    (split : markReleases amount lines = front ++ keep pop :: back)
    (pops : pop.isFramePop = true) :
    front.getLast?.any (·.mark = .released) = returnsNext (kept back) := by
  fun_induction markReleases amount lines generalizing front with
  | case1 => simp at split
  | case2 line rest follows ih =>
      cases front with
      | nil => simp [keep] at split
      | cons first front =>
          rw [List.cons_append, List.cons.injEq] at split
          obtain ⟨rfl, split⟩ := split
          cases front with
          | nil =>
              rw [List.nil_append, List.cons.injEq] at split
              rw [← split.2, kept_markReleases, (Bool.and_eq_true_iff.mp follows).2]
              rfl
          | cons second front =>
              rw [List.cons_append, List.cons.injEq] at split
              obtain ⟨rfl, split⟩ := split
              rw [List.getLast?_cons_cons, getLast?_any_cons (by simp [keep])]
              exact ih split
  | case3 line rest other ih =>
      cases front with
      | nil =>
          rw [List.nil_append, List.cons.injEq] at split
          obtain ⟨same, rfl⟩ := split
          cases same
          rw [kept_markReleases]
          simpa [pops] using other
      | cons first front =>
          rw [List.cons_append, List.cons.injEq] at split
          obtain ⟨rfl, split⟩ := split
          rw [getLast?_any_cons (by simp [keep])]
          exact ih split

theorem release_of_not_kept {front back : List Marked} {item : Marked}
    (split : markReleases amount lines = front ++ item :: back) (added : item.mark ≠ .kept) :
    item.mark = .released ∧ item.line.content = release amount ∧
      ∃ pop behind, back = keep pop :: behind ∧ pop.isFramePop = true := by
  fun_induction markReleases amount lines generalizing front with
  | case1 => simp at split
  | case2 line rest follows ih =>
      cases front with
      | nil =>
          rw [List.nil_append, List.cons.injEq] at split
          obtain ⟨rfl, rfl⟩ := split
          exact ⟨rfl, rfl, line, _, rfl, (Bool.and_eq_true_iff.mp follows).1⟩
      | cons first front =>
          rw [List.cons_append, List.cons.injEq] at split
          obtain ⟨-, split⟩ := split
          cases front with
          | nil =>
              rw [List.nil_append, List.cons.injEq] at split
              exact absurd (congrArg Marked.mark split.1).symm added
          | cons second front =>
              rw [List.cons_append, List.cons.injEq] at split
              exact ih split.2
  | case3 line rest other ih =>
      cases front with
      | nil =>
          rw [List.nil_append, List.cons.injEq] at split
          exact absurd (congrArg Marked.mark split.1).symm added
      | cons first front =>
          rw [List.cons_append, List.cons.injEq] at split
          exact ih split.2

theorem closed_markReleases (closed : Closed lines) (amount : Nat) :
    Closed ((markReleases amount lines).map (·.line)) := by
  have stays {line : Line} {rest : List Line} (closed : Closed (line :: rest))
      (ih : Closed rest → Closed ((markReleases amount rest).map (·.line))) :
      Closed (line :: (markReleases amount rest).map (·.line)) := by
    cases ends : line.isFunctionEnd with
    | false => exact .cons ends (ih closed.of_cons)
    | true =>
        rw [closed.eq_nil ends]
        simp [Closed, markReleases]
  fun_induction markReleases amount lines with
  | case1 => exact closed
  | case2 line rest _ ih =>
      have released := TellsLandmark.isFunctionEnd.no_instruction _
        (isInstruction_release amount line.number)
      exact .cons released (stays closed ih)
  | case3 line rest _ ih => exact stays closed ih

theorem isFunctionEnd_of_isFramePop {line : Line} (pops : line.isFramePop = true) :
    line.isFunctionEnd = false :=
  TellsLandmark.isFunctionEnd.no_instruction _ (Line.isInstruction_of_isFramePop pops)

theorem content_of_firstUnpatched? {front back : List Line} {previous own pop : Line}
    (closed : Closed lines) (clean : firstUnpatched? amount previous lines = none)
    (split : previous :: lines = front ++ own :: pop :: back) (pops : pop.isFramePop = true) :
    own.content = release amount := by
  induction lines generalizing previous front with
  | nil =>
      have length := congrArg List.length split
      simp only [List.length_append, List.length_cons, List.length_nil] at length
      omega
  | cons line rest ih =>
      rw [firstUnpatched?] at clean
      split at clean
      · rename_i ends
        rw [closed.eq_nil ends] at split
        cases front with
        | nil =>
            simp only [List.nil_append, List.cons.injEq] at split
            rw [split.2.1, isFunctionEnd_of_isFramePop pops] at ends
            contradiction
        | cons first front =>
            have length := congrArg List.length split
            simp only [List.length_append, List.length_cons, List.length_nil] at length
            omega
      · split at clean
        · contradiction
        · rename_i patched
          cases front with
          | nil =>
              simp only [List.nil_append, List.cons.injEq] at split
              obtain ⟨rfl, rfl, -⟩ := split
              simpa [pops] using patched
          | cons first front =>
              rw [List.cons_append, List.cons.injEq] at split
              exact ih closed.of_cons clean split.2

theorem growth_ne_release (amount : Nat) : growth amount ≠ release amount := by
  intro same
  have spelled := congrArg String.toList same
  rw [spelling_growth, spelling_release] at spelled
  simp at spelled

/-- What padding answers for behind a frame push, where `marked` has the lines of `rest` and those
    put in. -/
structure Accounted (amount : Nat) (rest : List Line) (marked : List Marked) : Prop where
  kept : kept marked = rest
  added : ∀ front item back, marked = front ++ item :: back → item.mark ≠ .kept →
    item.mark = .released ∧ item.line.content = release amount ∧
      ∃ pop behind, back = keep pop :: behind ∧ pop.isFramePop = true
  answered : ∀ front pop back, marked = front ++ keep pop :: back → pop.isFramePop = true →
    front.getLast?.any (·.mark = .released) = returnsNext (Marked.kept back)
  leftover : ∀ front pop back, marked = front ++ keep pop :: back → pop.isFramePop = true →
    returnsNext (Marked.kept back) = false →
    ∃ inside own, front = inside ++ [keep own] ∧ own.content = release amount

theorem accounted_markReleases {rest : List Line} {push : Line} (closed : Closed rest)
    (clean : firstUnpatched? amount (push.withContent (growth amount))
      ((markReleases amount rest).map (·.line)) = none) :
    Accounted amount rest (markReleases amount rest) where
  kept := kept_markReleases amount rest
  added _ _ _ split added := release_of_not_kept split added
  answered _ _ _ split pops := released_iff_returnsNext split pops
  leftover front pop back split pops unreturned := by
    have unreleased := released_iff_returnsNext split pops
    rw [unreturned] at unreleased
    have behind := closed_markReleases closed amount
    rcases List.eq_nil_or_concat' front with rfl | ⟨inside, own, rfl⟩
    -- Right behind the growth the pop would have been noticed.
    · have whole : push.withContent (growth amount) :: (markReleases amount rest).map (·.line) =
          [] ++ push.withContent (growth amount) :: pop :: back.map (·.line) := by
        simp [split, keep]
      exact absurd (content_of_firstUnpatched? behind clean whole pops) (growth_ne_release amount)
    · have whole : push.withContent (growth amount) :: (markReleases amount rest).map (·.line) =
          (push.withContent (growth amount) :: inside.map (·.line)) ++
            own.line :: pop :: back.map (·.line) := by
        simp [split, keep]
      have text := content_of_firstUnpatched? behind clean whole pops
      refine ⟨inside, own.line, ?_, text⟩
      have mark : own.mark = .kept := by
        by_contra added
        rw [List.append_assoc] at split
        rw [List.getLast?_concat, Option.any_some, (release_of_not_kept split added).1] at unreleased
        contradiction
      rw [keep, ← mark]

theorem exists_markReleases_append (amount : Nat) (front back : List Line) :
    ∃ before, markReleases amount (front ++ back) = before ++ markReleases amount back ∧
      kept before = front := by
  induction front with
  | nil => exact ⟨[], rfl, rfl⟩
  | cons line front ih =>
      obtain ⟨before, split, lines⟩ := ih
      rw [List.cons_append, markReleases, split]
      split
      · refine ⟨⟨line.withContent (release amount), .released⟩ :: keep line :: before, rfl, ?_⟩
        rw [kept_cons_added (by simp), kept_cons_keep, lines]
      · exact ⟨keep line :: before, rfl, by rw [kept_cons_keep, lines]⟩

theorem exists_markReleases_split (amount : Nat) {front back : List Line} {pop : Line}
    (whole : lines = front ++ pop :: back) :
    ∃ before, markReleases amount lines = before ++ keep pop :: markReleases amount back ∧
      kept before = front := by
  obtain ⟨before, split, lines'⟩ := exists_markReleases_append amount front (pop :: back)
  rw [whole, split, markReleases]
  split
  · refine ⟨before ++ [⟨pop.withContent (release amount), .released⟩], by simp, ?_⟩
    rw [kept_append, lines', kept_cons_added (by simp)]
    exact List.append_nil _
  · exact ⟨before, rfl, lines'⟩

theorem countP_released
    (returned : ∀ front pop back, lines = front ++ pop :: back → pop.isFramePop = true →
      returnsNext back = true) (amount : Nat) :
    (markReleases amount lines).countP (·.mark = .released) = lines.countP (·.isFramePop) := by
  have later {line : Line} {rest : List Line}
      (returned : ∀ front pop back, line :: rest = front ++ pop :: back → pop.isFramePop = true →
        returnsNext back = true) :
      ∀ front pop back, rest = front ++ pop :: back → pop.isFramePop = true →
        returnsNext back = true :=
    fun front pop back split => returned (line :: front) pop back (by rw [split]; rfl)
  fun_induction markReleases amount lines with
  | case1 => rfl
  | case2 line rest follows ih =>
      have pops := (Bool.and_eq_true_iff.mp follows).1
      rw [List.countP_cons_of_pos (by simp), List.countP_cons_of_neg (by simp [keep]),
        List.countP_cons_of_pos pops, ih (later returned)]
  | case3 line rest other ih =>
      have popless : ¬line.isFramePop = true := by
        intro pops
        rw [pops, returned [] line rest rfl pops] at other
        contradiction
      rw [List.countP_cons_of_neg (by simp [keep]), List.countP_cons_of_neg popless,
        ih (later returned)]

theorem Accounted.returned {rest : List Line}
    (accounted : Accounted amount rest (markReleases amount rest))
    (distinct : ∀ front own pop back, rest = front ++ own :: pop :: back → pop.isFramePop = true →
      own.content ≠ release amount) :
    ∀ front pop back, rest = front ++ pop :: back → pop.isFramePop = true →
      returnsNext back = true := by
  intro front pop back split pops
  obtain ⟨before, split', lines⟩ := exists_markReleases_split amount split
  by_contra unreturned
  have left := accounted.leftover before pop (markReleases amount back) split' pops
  rw [kept_markReleases] at left
  obtain ⟨inside, own, rfl, text⟩ := left (eq_false_of_ne_true unreturned)
  rw [kept_append] at lines
  refine distinct (Marked.kept inside) own pop back ?_ pops text
  rw [split, ← lines, List.append_assoc]
  rfl

end Frame

namespace Extent

theorem function_mem_cut {lines : List Line} {cursor start stop : Nat}
    (found : .function start stop ∈ scan lines cursor) :
    .function (slice lines start stop) ∈ FramePart.cut (lines.drop cursor) := by
  fun_induction scan lines cursor with
  | case1 => contradiction
  | case2 cursor extent next ih =>
      cases leads_of_next? next with
      | orphan gap line rest split parts =>
          have found' : lines.drop (cursor + gap.length) = [line] ++ rest := drop_behind_gap split
          have behind : lines.drop (cursor + gap.length + 1) = rest := drop_behind_gap found'
          rcases List.mem_cons.mp found with own | later
          · contradiction
          · rw [parts, ← behind]
            exact List.mem_append_right _ (List.mem_cons_of_mem _ (ih later))
      | function gap body rest nonempty split parts =>
          have behind : lines.drop (cursor + gap.length + body.length) = rest :=
            drop_behind_gap (drop_behind_gap split)
          rw [parts]
          apply List.mem_append_right
          rcases List.mem_cons.mp found with own | later
          · cases own
            rw [slice_gap (drop_behind_gap split)]
            exact List.mem_cons_self ..
          · rw [← behind]
            exact List.mem_cons_of_mem _ (ih later)

end Extent

open AsmLayout.Frame Marked in
/-- Behind the frame push of each padded function a release is put in front of exactly those frame
    pops that a return follows before another frame pop does. Any other frame pop there stands behind
    a line of the function's own that reads like the release; without such lines every frame pop has
    a release of its own, and there are as many releases as frame pops. -/
theorem Section.frame_pops_released (sec : Section) (amount : Nat) :
    let aligned := alignDown amount
    let extents := Extent.scan sec.lines 0
    let replacement := Extent.replacement sec.dialect aligned sec.lines
    let outcome := Extent.outcome sec.dialect aligned sec.lines
    (sec.padFrames amount).1.contents =
      (Extent.splice replacement sec.lines 0 extents).map (·.content) ∧
    (sec.padFrames amount).2 = (if extents.isEmpty then [.skipped (.missingLabel sec.firstNumber)]
      else extents.map outcome) ∧
    ∀ extent ∈ extents, ∀ function grown returns, outcome extent = .padded function grown returns →
      ∃ before push rest marked,
        expandLeaves 0 (Extent.slice sec.lines extent.start extent.stop) = before ++ push :: rest ∧
        (∀ line ∈ before, line.isFramePush = false) ∧ push.isFramePush = true ∧
        replacement extent = before ++ push :: push.withContent (growth aligned) ::
          marked.map (·.line) ∧
        Accounted aligned rest marked ∧
        marked.countP (·.mark = .released) = returns ∧
        ((∀ front own pop back, rest = front ++ own :: pop :: back → pop.isFramePop = true →
            own.content ≠ release aligned) →
          rest.countP (·.isFramePop) = returns ∧
          ∀ front pop back, marked = front ++ keep pop :: back → pop.isFramePop = true →
            returnsNext (kept back) = true ∧ front.getLast?.any (·.mark = .released) = true) := by
  intro aligned extents replacement outcome
  have told := Extent.map_outcome_scan sec.dialect aligned sec.lines 0
  have left := Extent.splice_scan sec.dialect aligned sec.lines 0
  rw [List.drop_zero] at told left
  refine ⟨?_, ?_, ?_⟩
  · rw [left]
    exact sec.contents_edit _
  · rw [told, ← List.isEmpty_map (f := outcome), told]
    rfl
  · intro extent found function grown returns padded
    cases extent with
    | orphan position => contradiction
    | function start stop =>
        have met := Extent.function_mem_cut found
        rw [List.drop_zero] at met
        have closed := (FramePart.closed_of_mem_cut met).1
        cases pads : pad sec.dialect aligned (Extent.slice sec.lines start stop) with
        | error reason => simp [outcome, Extent.outcome, Extent.start, Extent.stop, pads] at padded
        | ok result =>
            obtain ⟨before, push, rest, prologue, behind, written, count, clean⟩ :=
              mark_of_pad closed pads
            obtain ⟨whole, pushes⟩ := eq_of_splitAtFirst? prologue
            have accounted := accounted_markReleases behind clean
            simp only [outcome, Extent.outcome, Extent.start, Extent.stop, pads,
              FrameOutcome.padded.injEq] at padded
            obtain ⟨-, -, rfl⟩ := padded
            refine ⟨before, push, rest, markReleases aligned rest, whole,
              not_of_splitAtFirst? prologue, pushes, ?_, accounted, count.symm, ?_⟩
            · simp only [replacement, Extent.replacement, Extent.start, Extent.stop, pads]
              exact written
            · intro distinct
              have returned := accounted.returned distinct
              refine ⟨?_, ?_⟩
              · rw [count, countP_released returned]
              · intro front pop back split pops
                have follows : returnsNext (kept back) = true := by
                  refine returned (kept front) pop (kept back) ?_ pops
                  rw [← accounted.kept, split, kept_append, kept_cons_keep]
                exact ⟨follows, (accounted.answered front pop back split pops).trans follows⟩

open AsmLayout.Frame Marked in
/-- A line of the function's own that reads like the release of another amount does not matter. -/
theorem Section.frame_pops_released_beside_own_release :
    let sec := ofLines .gcc (Line.numbered 0 ["f:", "\tpushq\t%rbp", "\tje\t.L2",
      "\taddq $16, %rsp", "\tpopq\t%rbp", "\tret", ".L2:", "\tleave", "\tret", "\t.cfi_endproc"])
    Extent.scan sec.lines 0 = [.function 0 10] ∧
    Extent.outcome sec.dialect (alignDown 32) sec.lines (.function 0 10) = .padded "f" 32 2 ∧
    ∃ rest marked, Accounted 32 rest marked ∧
      (∀ front own pop back, rest = front ++ own :: pop :: back → pop.isFramePop = true →
        own.content ≠ release 32) ∧
      rest.countP (·.isFramePop) = 2 ∧ marked.countP (·.mark = .released) = 2 := by
  intro sec
  have extents : Extent.scan sec.lines 0 = [.function 0 10] := by decide +kernel
  have padded : Extent.outcome sec.dialect (alignDown 32) sec.lines (.function 0 10) =
      .padded "f" 32 2 := by decide +kernel
  obtain ⟨before, push, rest, marked, whole, -, -, -, accounted, count, released⟩ :=
    (frame_pops_released sec 32).2.2 (.function 0 10) (by rw [extents]; exact List.mem_cons_self ..)
      "f" 32 2 padded
  have other : ∀ line ∈ expandLeaves 0 (Extent.slice sec.lines 0 10), line.content ≠ release 32 := by
    decide +kernel
  have distinct : ∀ front own pop back, rest = front ++ own :: pop :: back → pop.isFramePop = true →
      own.content ≠ release 32 := by
    intro front own pop back split _
    apply other own
    rw [show expandLeaves 0 (Extent.slice sec.lines 0 10) = before ++ push :: rest from whole, split]
    simp
  exact ⟨extents, padded, rest, marked, accounted, distinct, (released distinct).1, count⟩

/-- A frame pop in front of a tail call goes unnoticed behind a line that reads like its release: the
    function counts as padded, its frame grows, and no release is put in. -/
theorem Section.leftover_pop_unnoticed :
    let sec := ofLines .gcc (Line.numbered 0 ["f:", "\tpushq %rbp", "\taddq $32, %rsp",
      "\tpopq %rbp", "\tjmp h", "\t.cfi_endproc"])
    (sec.padFrames 32).2 = [.padded "f" 32 0] ∧
    (sec.padFrames 32).1.contents = ["f:", "\tpushq %rbp", "\tsubq $32, %rsp",
      "\taddq $32, %rsp", "\tpopq %rbp", "\tjmp h", "\t.cfi_endproc"] ∧
    (⟨"\tpopq %rbp", 3⟩ : Line).isFramePop = true ∧
    Frame.returnsNext [⟨"\tjmp h", 4⟩, ⟨"\t.cfi_endproc", 5⟩] = false ∧
    (sec.marked 32).countP (·.mark = .released) = 0 := by
  decide +kernel

end AsmLayout
