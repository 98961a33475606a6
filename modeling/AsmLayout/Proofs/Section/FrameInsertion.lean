import AsmLayout.Proofs.Section.Extent
import AsmLayout.Proofs.Section.Insertion
import AsmLayout.Proofs.Section.Unchanged

/-! # Padded frames with adjustments put in

Padding frames looks for leaves, frame pushes, frame pops, returns and the marks of functions; it asks
for the line in front of a frame pop, and no adjustment stands there. So the same functions are padded
with adjustments and without them, in the same places, and what padding writes calls for none.
-/

namespace AsmLayout

/-! ## What padding looks for -/

theorem TellsLandmark.isFunctionEnd : TellsLandmark Line.isFunctionEnd where
  numberless _ _ := rfl
  no_instruction line instruction := by
    obtain ⟨c, cs, rest, spelled, letter, -⟩ := Line.words_of_isInstruction instruction
    have first := Text.head?_words line.chars (Line.isBlank_of_isInstruction instruction)
    rw [← Line.words, spelled, List.head?_cons, Option.some.injEq] at first
    apply eq_false_of_ne_true
    intro ends
    rw [beq_iff_eq.mp ends] at first
    injection first with symbol _
    rw [symbol] at letter
    exact absurd letter (by decide)

namespace Overlooks

theorem isFunctionEnd : Overlooks Line.isFunctionEnd := .of_tellsLandmark .isFunctionEnd

theorem isFunctionLabel : Overlooks Line.isFunctionLabel := .of_tellsLandmark .isFunctionLabel

theorem isFramePush : Overlooks Line.isFramePush := by
  refine .of_isStatementWith (fun _ _ => rfl) ["pushq"] ?_ (by decide)
  intro statement push
  exact List.mem_singleton.mpr (beq_iff_eq.mp (Bool.and_eq_true_iff.mp push).1)

theorem isFramePop : Overlooks Line.isFramePop := by
  refine .of_isStatementWith (fun _ _ => rfl) ["popq"] ?_ (by decide)
  intro statement pop
  exact List.mem_singleton.mpr (beq_iff_eq.mp (Bool.and_eq_true_iff.mp pop).1)

theorem isReturn : Overlooks Line.isReturn := by
  refine .of_isStatementWith (fun _ _ => rfl) ["ret", "retq", "rep", "repz"] ?_ (by decide)
  intro statement ret
  rcases Bool.or_eq_true_iff.mp ret with plain | repeated
  · have listed := List.contains_iff_mem.mp plain
    simp only [List.mem_cons, List.not_mem_nil, or_false] at listed ⊢
    tauto
  · have listed := List.contains_iff_mem.mp (Bool.and_eq_true_iff.mp repeated).1
    simp only [List.mem_cons, List.not_mem_nil, or_false] at listed ⊢
    tauto

theorem isLeave : Overlooks Line.isLeave := by
  refine .of_head? (fun _ _ => rfl) ["leave".toList, "leaveq".toList] ?_ (by decide)
  intro line leave
  rcases (Line.head?_words_of_isLeave leave).2 with plain | suffixed
  · exact ⟨_, List.mem_cons_self .., plain⟩
  · exact ⟨_, List.mem_cons_of_mem _ (List.mem_cons_self ..), suffixed⟩

end Overlooks

/-! ## Functions -/

namespace Frame

variable {ins : Insertion} {p : Line → Bool} {lines lines' : List Line}

theorem expandLeaves_inserted (inserted : Inserted ins lines lines') (position position' : Nat) :
    Inserted ins (expandLeaves position lines) (expandLeaves position' lines') := by
  have restored (number : Nat) : ins.front ⟨"\tmovq %rbp, %rsp", number⟩ = none :=
    ins.front_of_spelling spelling_restore (by decide) (by decide) (by decide)
  have popped (number : Nat) : ins.front ⟨"\tpopq %rbp", number⟩ = none :=
    Insertion.front_eq_none .isFramePop (Line.isFramePop_pop number)
  induction inserted generalizing position position' with
  | nil => exact .nil
  | @keep line line' rest rest' free same _ ih =>
      have told : line'.isLeave = line.isLeave := Overlooks.isLeave.eq_of_content same
      rw [expandLeaves, expandLeaves, told]
      split
      · exact .keep (restored _) rfl (.keep (popped _) rfl (ih _ _))
      · exact .keep free same (ih _ _)
  | @put line new line' rest rest' put same _ ih =>
      obtain ⟨own, added, told⟩ := Insertion.false_of_put Overlooks.isLeave put same
      rw [expandLeaves, if_neg (by simp [own]), expandLeaves, if_neg (by simp [added]), expandLeaves,
        if_neg (by simp [told])]
      exact .put put same (ih _ _)

/-- Lines that are split at lines of the same text. -/
structure SplitAlike (ins : Insertion) (split split' : List Line × Line × List Line) : Prop where
  before : Inserted ins split.1 split'.1
  found : split'.2.1.content = split.2.1.content
  after : Inserted ins split.2.2 split'.2.2

theorem splitAtFirst?_of_neg {line : Line} (other : p line = false)
    (open' : line.isFunctionEnd = false) (rest : List Line) :
    splitAtFirst? p (line :: rest) =
      (splitAtFirst? p rest).map fun (before, found, after) => (line :: before, found, after) := by
  rw [splitAtFirst?, if_neg (by simp [other]), if_neg (by simp [open'])]
  cases splitAtFirst? p rest <;> rfl

theorem splitAtFirst?_inserted (overlooks : Overlooks p) (inserted : Inserted ins lines lines') :
    Option.Rel (SplitAlike ins) (splitAtFirst? p lines) (splitAtFirst? p lines') := by
  induction inserted with
  | nil => exact .none
  | @keep line line' rest rest' free same later ih =>
      have told : p line' = p line := overlooks.eq_of_content same
      have ends : line'.isFunctionEnd = line.isFunctionEnd :=
        Overlooks.isFunctionEnd.eq_of_content same
      cases holds : p line with
      | true =>
          rw [splitAtFirst?, if_pos holds, splitAtFirst?, if_pos (told.trans holds)]
          exact .some ⟨.nil, same, later⟩
      | false =>
          cases closed : line.isFunctionEnd with
          | true =>
              rw [splitAtFirst?, if_neg (by simp [holds]), if_pos closed, splitAtFirst?,
                if_neg (by simp [told, holds]), if_pos (ends.trans closed)]
              exact .none
          | false =>
              rw [splitAtFirst?_of_neg holds closed,
                splitAtFirst?_of_neg (told.trans holds) (ends.trans closed)]
              generalize splitAtFirst? p rest = split at ih ⊢
              generalize splitAtFirst? p rest' = split' at ih ⊢
              cases ih with
              | none => exact .none
              | some alike => exact .some ⟨.keep free same alike.before, alike.found, alike.after⟩
  | @put line new line' rest rest' put same later ih =>
      obtain ⟨own, added, told⟩ := Insertion.false_of_put overlooks put same
      obtain ⟨open', added', told'⟩ := Insertion.false_of_put Overlooks.isFunctionEnd put same
      rw [splitAtFirst?_of_neg own open', splitAtFirst?_of_neg added added',
        splitAtFirst?_of_neg told told']
      generalize splitAtFirst? p rest = split at ih ⊢
      generalize splitAtFirst? p rest' = split' at ih ⊢
      cases ih with
      | none => exact .none
      | some alike => exact .some ⟨.put put same alike.before, alike.found, alike.after⟩

theorem splitAtLast?_cons (p : Line → Bool) (line : Line) (rest : List Line) :
    splitAtLast? p (line :: rest) =
      ((splitAtLast? p rest).map fun (before, found, after) => (line :: before, found, after)).or
        (if p line then some ([], line, rest) else none) := by
  rw [splitAtLast?]
  cases splitAtLast? p rest <;> rfl

theorem splitAtLast?_concat (p : Line → Bool) (lines : List Line) (line : Line) :
    splitAtLast? p (lines ++ [line]) =
      if p line then some (lines, line, [])
      else (splitAtLast? p lines).map fun (before, found, after) =>
        (before, found, after ++ [line]) := by
  induction lines with
  | nil =>
      rw [List.nil_append, splitAtLast?, splitAtLast?]
      rfl
  | cons first lines ih =>
      rw [List.cons_append, splitAtLast?, ih, splitAtLast?]
      cases p line with
      | true => rfl
      | false =>
          cases splitAtLast? p lines with
          | none => cases p first <;> rfl
          | some parts => rfl

theorem splitAtLast?_of_neg {line : Line} (other : p line = false) (rest : List Line) :
    splitAtLast? p (line :: rest) =
      (splitAtLast? p rest).map fun (before, found, after) => (line :: before, found, after) := by
  rw [splitAtLast?_cons, if_neg (by simp [other]), Option.or_none]

theorem splitAtLast?_inserted (overlooks : Overlooks p) (inserted : Inserted ins lines lines') :
    Option.Rel (SplitAlike ins) (splitAtLast? p lines) (splitAtLast? p lines') := by
  induction inserted with
  | nil => exact .none
  | @keep line line' rest rest' free same later ih =>
      rw [splitAtLast?_cons, splitAtLast?_cons, overlooks.eq_of_content same]
      generalize splitAtLast? p rest = split at ih ⊢
      generalize splitAtLast? p rest' = split' at ih ⊢
      cases ih with
      | some alike => exact .some ⟨.keep free same alike.before, alike.found, alike.after⟩
      | none =>
          cases p line with
          | true => exact .some ⟨.nil, same, later⟩
          | false => exact .none
  | @put line new line' rest rest' put same later ih =>
      obtain ⟨own, added, told⟩ := Insertion.false_of_put overlooks put same
      rw [splitAtLast?_of_neg own, splitAtLast?_of_neg added, splitAtLast?_of_neg told]
      generalize splitAtLast? p rest = split at ih ⊢
      generalize splitAtLast? p rest' = split' at ih ⊢
      cases ih with
      | none => exact .none
      | some alike => exact .some ⟨.put put same alike.before, alike.found, alike.after⟩

theorem eq_none_of_rel {α β : Type} {R : α → β → Prop} {y? : Option β}
    (related : Option.Rel R none y?) : y? = none := by
  cases related
  rfl

theorem exists_of_rel {α β : Type} {R : α → β → Prop} {x : α} {y? : Option β}
    (related : Option.Rel R (some x) y?) : ∃ y, y? = some y ∧ R x y := by
  cases related
  exact ⟨_, rfl, by assumption⟩

/-- Results that are related, or failures for any reasons. -/
inductive Alike {ε α β : Type} (R : α → β → Prop) : Except ε α → Except ε β → Prop where
  | ok {a : α} {b : β} : R a b → Alike R (.ok a) (.ok b)
  | error {cause cause' : ε} : Alike R (.error cause) (.error cause')

theorem patchReturns_of_none {function : String} {amount : Nat} {lines : List Line}
    (last : splitAtFirst? Line.isReturn lines = none) :
    patchReturns function amount lines = .ok (lines, 0) := by
  rw [patchReturns]
  split
  · rfl
  · rename_i first
    rw [last] at first
    contradiction

theorem patchReturns_of_some {function : String} {amount : Nat} {lines stretch rest : List Line}
    {ret : Line} (first : splitAtFirst? Line.isReturn lines = some (stretch, ret, rest)) :
    patchReturns function amount lines =
      match splitAtLast? Line.isFramePop stretch with
      | none => .error (.missingEpilogue function ret.number)
      | some (before, pop, after) =>
        match patchReturns function amount rest with
        | .error reason => .error reason
        | .ok (patched, returns) =>
          .ok (before ++ pop.withContent (release amount) :: pop :: after ++ ret :: patched,
            returns + 1) := by
  rw [patchReturns]
  split
  · rename_i last
    rw [first] at last
    contradiction
  · rename_i found
    rw [first] at found
    cases found
    rfl

theorem stretch_inserted (inserted : Inserted ins lines lines') {stretch rest : List Line}
    {ret : Line} (first : splitAtFirst? Line.isReturn lines = some (stretch, ret, rest)) :
    ∃ stretch' ret' rest', splitAtFirst? Line.isReturn lines' = some (stretch', ret', rest') ∧
      ret'.content = ret.content ∧ Inserted ins rest rest' ∧
      Option.Rel (SplitAlike ins) (splitAtLast? Line.isFramePop stretch)
        (splitAtLast? Line.isFramePop stretch') := by
  have splits := splitAtFirst?_inserted Overlooks.isReturn inserted
  rw [first] at splits
  obtain ⟨⟨stretch', ret', rest'⟩, first', alike⟩ := exists_of_rel splits
  exact ⟨stretch', ret', rest', first', alike.found, alike.after,
    splitAtLast?_inserted Overlooks.isFramePop alike.before⟩

theorem patchReturns_inserted (inserted : Inserted ins lines lines') (function : String)
    (amount : Nat) :
    Alike (fun result result' : List Line × Nat => Inserted ins result.1 result'.1)
      (patchReturns function amount lines) (patchReturns function amount lines') := by
  have released (number : Nat) : ins.front ⟨release amount, number⟩ = none :=
    ins.front_of_spelling (spelling_release amount) (by decide) (by decide) (by decide)
  fun_induction patchReturns function amount lines generalizing lines' with
  | case1 lines last =>
      have splits := splitAtFirst?_inserted Overlooks.isReturn inserted
      rw [last] at splits
      rw [patchReturns_of_none (eq_none_of_rel splits)]
      exact .ok inserted
  | case2 lines stretch ret rest first popless =>
      obtain ⟨stretch', ret', rest', first', -, -, pops⟩ := stretch_inserted inserted first
      rw [popless] at pops
      rw [patchReturns_of_some first', eq_none_of_rel pops]
      exact .error
  | case3 lines stretch ret rest first before pop after last reason fails ih =>
      obtain ⟨stretch', ret', rest', first', -, behind, pops⟩ := stretch_inserted inserted first
      rw [last] at pops
      obtain ⟨⟨before', pop', after'⟩, last', -⟩ := exists_of_rel pops
      have later := ih behind
      rw [fails] at later
      rw [patchReturns_of_some first', last']
      generalize patchReturns function amount rest' = result at later ⊢
      cases later with
      | error => exact .error
  | case4 lines stretch ret rest first before pop after last patched returned patches ih =>
      obtain ⟨stretch', ret', rest', first', same, behind, pops⟩ := stretch_inserted inserted first
      rw [last] at pops
      obtain ⟨⟨before', pop', after'⟩, last', popped⟩ := exists_of_rel pops
      have later := ih behind
      rw [patches] at later
      have kept : ins.front pop = none :=
        Insertion.front_eq_none .isFramePop (eq_of_splitAtLast? last).2
      have closed : ins.front ret = none :=
        Insertion.front_eq_none .isReturn (eq_of_splitAtFirst? first).2
      rw [patchReturns_of_some first', last']
      generalize patchReturns function amount rest' = result at later ⊢
      cases later with
      | ok behind =>
          have patch : Inserted ins (pop.withContent (release amount) :: pop :: after)
              (pop'.withContent (release amount) :: pop' :: after') :=
            .keep (released pop.number) rfl (.keep kept popped.found popped.after)
          exact .ok ((popped.before.append patch).append (.keep closed same behind))

/-- No adjustment stands in front of a frame pop, so the line in front of it is the same. -/
theorem firstUnpatched?_inserted (inserted : Inserted ins lines lines') (amount : Nat)
    {previous previous' : Line} (same : previous'.content = previous.content) :
    (firstUnpatched? amount previous' lines').isSome =
      (firstUnpatched? amount previous lines).isSome := by
  induction inserted generalizing previous previous' with
  | nil => rfl
  | @keep line line' rest rest' free text _ ih =>
      rw [firstUnpatched?, firstUnpatched?, Overlooks.isFunctionEnd.eq_of_content text,
        Overlooks.isFramePop.eq_of_content text, same]
      split
      · rfl
      · split
        · rfl
        · exact ih text
  | @put line new line' rest rest' put text _ ih =>
      obtain ⟨open', added, told⟩ := Insertion.false_of_put Overlooks.isFunctionEnd put text
      obtain ⟨own, added', told'⟩ := Insertion.false_of_put Overlooks.isFramePop put text
      have passed {line previous : Line} (rest : List Line) (ends : line.isFunctionEnd = false)
          (pop : line.isFramePop = false) : firstUnpatched? amount previous (line :: rest) =
            firstUnpatched? amount line rest := by
        rw [firstUnpatched?, if_neg (by simp [ends]), if_neg (by simp [pop])]
      rw [passed rest open' own, passed _ added added', passed rest' told told']
      exact ih text

theorem pad_inserted (inserted : Inserted ins lines lines')
    (named : functionName lines' = functionName lines) (dialect : Dialect) (amount : Nat) :
    Alike (fun padded padded' : Padded => Inserted ins padded.lines padded'.lines)
      (pad dialect amount lines) (pad dialect amount lines') := by
  have grown (number : Nat) : ins.front ⟨growth amount, number⟩ = none :=
    ins.front_of_spelling (spelling_growth amount) (by decide) (by decide) (by decide)
  have splits := splitAtFirst?_inserted Overlooks.isFramePush (expandLeaves_inserted inserted 0 0)
  simp only [pad, named, inserted.getLast?_any_eq Overlooks.isFunctionEnd]
  split
  · exact .error
  · cases prologue : splitAtFirst? Line.isFramePush (expandLeaves 0 lines) with
    | none =>
        rw [prologue] at splits
        rw [eq_none_of_rel splits]
        exact .error
    | some split =>
        obtain ⟨before, push, rest⟩ := split
        rw [prologue] at splits
        obtain ⟨⟨before', push', rest'⟩, prologue', pushes⟩ := exists_of_rel splits
        have patches := patchReturns_inserted pushes.after (functionName lines) amount
        have kept : ins.front push = none :=
          Insertion.front_eq_none .isFramePush (eq_of_splitAtFirst? prologue).2
        rw [prologue']
        dsimp only at patches ⊢
        generalize patchReturns (functionName lines) amount rest = result at patches ⊢
        generalize patchReturns (functionName lines) amount rest' = result' at patches ⊢
        cases patches with
        | error => exact .error
        | @ok result result' behind =>
            obtain ⟨patched, returns⟩ := result
            obtain ⟨patched', returns'⟩ := result'
            have body : Inserted ins (before ++ push :: push.withContent (growth amount) :: patched)
                (before' ++ push' :: push'.withContent (growth amount) :: patched') :=
              pushes.before.append
                (.keep kept pushes.found (.keep (grown push.number) rfl behind))
            have unpatched : (firstUnpatched? amount (push'.withContent (growth amount))
                patched').isSome =
                (firstUnpatched? amount (push.withContent (growth amount)) patched).isSome :=
              firstUnpatched?_inserted behind amount rfl
            dsimp only
            generalize firstUnpatched? amount (push.withContent (growth amount)) patched = pop
              at unpatched ⊢
            generalize firstUnpatched? amount (push'.withContent (growth amount)) patched' = pop'
              at unpatched ⊢
            cases pop with
            | none =>
                cases pop' with
                | none => exact .ok body
                | some pop' => contradiction
            | some pop =>
                obtain ⟨pop', rfl⟩ := Option.isSome_iff_exists.mp unpatched
                exact .error

end Frame

/-! ## Sections -/

namespace FramePart

variable {ins : Insertion} {lines lines' : List Line}

theorem throughEnd_inserted (inserted : Inserted ins lines lines') :
    Inserted ins (throughEnd lines).1 (throughEnd lines').1 ∧
      Inserted ins (throughEnd lines).2 (throughEnd lines').2 := by
  induction inserted with
  | nil => exact ⟨.nil, .nil⟩
  | @keep line line' rest rest' free same later ih =>
      rw [throughEnd, throughEnd, Overlooks.isFunctionEnd.eq_of_content same]
      split
      · exact ⟨.keep free same .nil, later⟩
      · exact ⟨.keep free same ih.1, ih.2⟩
  | @put line new line' rest rest' put same later ih =>
      obtain ⟨own, added, found⟩ := Insertion.false_of_put Overlooks.isFunctionEnd put same
      rw [throughEnd, if_neg (by simp [own]), throughEnd, if_neg (by simp [added]), throughEnd,
        if_neg (by simp [found])]
      exact ⟨.put put same ih.1, ih.2⟩

theorem pad_function_inserted (inserted : Inserted ins lines lines')
    (named : Frame.functionName lines' = Frame.functionName lines) (dialect : Dialect)
    (amount : Nat) :
    Inserted ins ((function lines).pad dialect amount).1 ((function lines').pad dialect amount).1 ∧
      paddedNames ((function lines').pad dialect amount).2.toList =
        paddedNames ((function lines).pad dialect amount).2.toList := by
  have alike := Frame.pad_inserted inserted named dialect amount
  rw [pad, pad, named]
  generalize Frame.pad dialect amount lines = result at alike ⊢
  generalize Frame.pad dialect amount lines' = result' at alike ⊢
  cases alike with
  | ok padded => exact ⟨padded, rfl⟩
  | error => exact ⟨inserted, rfl⟩

theorem padAll_of_cut {lines rest : List Line} {part : FramePart}
    (parts : cut lines = part :: cut rest) (dialect : Dialect) (amount : Nat) :
    (padAll dialect amount lines).1 = (part.pad dialect amount).1 ++ (padAll dialect amount rest).1 ∧
      paddedNames (padAll dialect amount lines).2 =
        paddedNames (part.pad dialect amount).2.toList ++
          paddedNames (padAll dialect amount rest).2 := by
  rw [← paddedNames_append]
  simp only [padAll, parts, List.map_cons, List.flatMap_cons, List.filterMap_cons, true_and]
  cases (part.pad dialect amount).2 <;> rfl

theorem padAll_inserted (inserted : Inserted ins lines lines') (dialect : Dialect) (amount : Nat) :
    Inserted ins (padAll dialect amount lines).1 (padAll dialect amount lines').1 ∧
      paddedNames (padAll dialect amount lines').2 = paddedNames (padAll dialect amount lines).2 := by
  -- The parts after the first one are given by the recursion of the cut, not by the insertions.
  fun_induction cut lines generalizing lines' with
  | case1 =>
      cases inserted
      rw [padAll, cut]
      exact ⟨.nil, rfl⟩
  | case2 line rest ends ih =>
      cases inserted with
      | put put _ _ =>
          rw [Insertion.front_eq_none .isFunctionEnd ends] at put
          contradiction
      | @keep _ line' _ rest' free same later =>
          have ends' := (Overlooks.isFunctionEnd.eq_of_content same).trans ends
          obtain ⟨lines, names⟩ := padAll_of_cut (cut_of_end ends rest) dialect amount
          obtain ⟨lines', names'⟩ := padAll_of_cut (cut_of_end ends' rest') dialect amount
          rw [lines, names, lines', names', (ih later).2]
          exact ⟨.keep free same (ih later).1, rfl⟩
  | case3 line rest open' labels ih =>
      have open' := eq_false_of_ne_true open'
      cases inserted with
      | put put _ _ =>
          rw [Insertion.front_eq_none .isFunctionLabel labels] at put
          contradiction
      | @keep _ line' _ rest' free same later =>
          have open'' := (Overlooks.isFunctionEnd.eq_of_content same).trans open'
          have labels' := (Overlooks.isFunctionLabel.eq_of_content same).trans labels
          obtain ⟨body, behind⟩ := throughEnd_inserted later
          have named : Frame.functionName (line' :: (throughEnd rest').1) =
              Frame.functionName (line :: (throughEnd rest).1) := by
            rw [Line.eq_of_content same]
            rfl
          obtain ⟨own, name⟩ := pad_function_inserted (.keep free same body) named dialect amount
          obtain ⟨lines, names⟩ := padAll_of_cut (cut_of_label open' labels rest) dialect amount
          obtain ⟨lines', names'⟩ := padAll_of_cut (cut_of_label open'' labels' rest') dialect amount
          rw [lines, names, lines', names', name, (ih behind).2]
          exact ⟨own.append (ih behind).1, rfl⟩
  | case4 line rest open' plain ih =>
      have open' := eq_false_of_ne_true open'
      have plain := eq_false_of_ne_true plain
      obtain ⟨lines, names⟩ := padAll_of_cut (cut_of_plain open' plain rest) dialect amount
      cases inserted with
      | @keep _ line' _ rest' free same later =>
          have open'' := (Overlooks.isFunctionEnd.eq_of_content same).trans open'
          have plain' := (Overlooks.isFunctionLabel.eq_of_content same).trans plain
          obtain ⟨lines', names'⟩ := padAll_of_cut (cut_of_plain open'' plain' rest') dialect amount
          rw [lines, names, lines', names', (ih later).2]
          exact ⟨.keep free same (ih later).1, rfl⟩
      | @put _ new line' _ rest' put same later =>
          obtain ⟨-, added, open''⟩ := Insertion.false_of_put Overlooks.isFunctionEnd put same
          obtain ⟨-, added', plain'⟩ := Insertion.false_of_put Overlooks.isFunctionLabel put same
          obtain ⟨front, none⟩ :=
            padAll_of_cut (cut_of_plain added added' (line' :: rest')) dialect amount
          obtain ⟨lines', names'⟩ := padAll_of_cut (cut_of_plain open'' plain' rest') dialect amount
          rw [lines, names, front, none, lines', names', (ih later).2]
          exact ⟨.put put same (ih later).1, rfl⟩

end FramePart

theorem Section.padFrames_filled {ins : Insertion} (amount : Nat) {sec filled : Section}
    (fills : Filled ins sec filled) :
    Filled ins (sec.padFrames amount).1 (filled.padFrames amount).1 ∧
      paddedNames (filled.padFrames amount).2 = paddedNames (sec.padFrames amount).2 := by
  have names (sec : Section) : paddedNames (sec.padFrames amount).2 =
      paddedNames (FramePart.padAll sec.dialect (alignDown amount) sec.lines).2 := by
    rw [padFrames]
    dsimp only
    split
    · rename_i silent
      rw [FramePart.padAll, List.isEmpty_iff.mp silent]
      rfl
    · rfl
  obtain ⟨inserted, padded⟩ := FramePart.padAll_inserted fills.lines sec.dialect (alignDown amount)
  rw [names, names, fills.dialect]
  refine ⟨?_, padded⟩
  rw [padFrames, padFrames, fills.dialect]
  exact fills.edit inserted

end AsmLayout
