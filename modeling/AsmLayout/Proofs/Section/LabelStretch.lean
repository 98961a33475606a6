import AsmLayout.Proofs.Section.Release

/-! # Growth and release between function labels

A function ends at its function end or with the section, not at the next function label. A release
therefore stands behind the growth of the same function, but between the same function labels only
where no label came in between. Where functions hold no label but their own, no release strays.
-/

namespace AsmLayout

namespace Marked

/-- The other lines of the stretch between two function labels that holds a line, given those in
    front of the line and behind it. -/
def neighbours (front back : List Marked) : List Marked :=
  front.reverse.takeWhile (!·.line.isFunctionLabel) ++ back.takeWhile (!·.line.isFunctionLabel)

/-- Where only one frame grows near a line, it does so between the same function labels exactly if
    no label stands behind the growth. -/
theorem any_grown_neighbours_iff {outer inner back : List Marked} {growth : Marked}
    (grows : growth.mark = .grown) (unlabelled : growth.line.isFunctionLabel = false)
    (single : ∀ other ∈ inner, other.mark ≠ .grown)
    (none : ∀ other ∈ back.takeWhile (!·.line.isFunctionLabel), other.mark ≠ .grown) :
    (neighbours (outer ++ growth :: inner) back).any (·.mark = .grown) = true ↔
      ∀ other ∈ inner, other.line.isFunctionLabel = false := by
  have behind : (back.takeWhile (!·.line.isFunctionLabel)).any (·.mark = .grown) = false := by
    simpa [List.any_eq_false] using none
  have front : (outer ++ growth :: inner).reverse = inner.reverse ++ growth :: outer.reverse := by
    simp
  rw [neighbours, List.any_append, behind, Bool.or_false, front]
  constructor
  · intro grown other member
    by_contra labels
    have stops : ((inner.reverse).takeWhile (!·.line.isFunctionLabel)).length ≠
        inner.reverse.length := by
      intro whole
      have all := (List.takeWhile_prefix _).eq_of_length whole
      have listed := List.mem_reverse.mpr member
      rw [← all] at listed
      simpa [labels] using List.mem_takeWhile_imp listed
    rw [List.takeWhile_append, if_neg stops] at grown
    obtain ⟨found, listed, grows⟩ := List.any_eq_true.mp grown
    have inside := List.mem_reverse.mp ((List.takeWhile_sublist _).mem listed)
    exact single found inside (of_decide_eq_true grows)
  · intro labelless
    have passes : ∀ other ∈ inner.reverse, (!other.line.isFunctionLabel) = true := by
      intro other member
      rw [labelless other (List.mem_reverse.mp member)]
      rfl
    rw [List.takeWhile_append_of_pos passes, List.takeWhile_cons_of_pos (by rw [unlabelled]; rfl)]
    simp [grows]

end Marked

theorem isFunctionLabel_of_isInstruction {line : Line} (instruction : line.isInstruction = true) :
    line.isFunctionLabel = false :=
  TellsLandmark.isFunctionLabel.no_instruction line instruction

theorem exists_of_append_eq {α : Type} {xs ys front back : List α} {x : α}
    (same : xs ++ ys = front ++ x :: back) (absent : x ∉ xs) :
    ∃ inner, front = xs ++ inner ∧ ys = inner ++ x :: back := by
  rcases List.append_eq_append_iff.mp same with ⟨inner, rfl, whole⟩ | ⟨inner, whole, split⟩
  · exact ⟨inner, rfl, whole⟩
  · cases inner with
    | nil => exact ⟨[], by rw [whole, List.append_nil, List.append_nil], split.symm⟩
    | cons first inner =>
        rw [List.cons_append, List.cons.injEq] at split
        rw [whole, split.1] at absent
        simp at absent

theorem exists_part_of_flatMap {α β : Type} {f : α → List β} {parts : List α} {front back : List β}
    {x : β} (whole : parts.flatMap f = front ++ x :: back) :
    ∃ former part later inner outer, parts = former ++ part :: later ∧
      f part = inner ++ x :: outer ∧ front = former.flatMap f ++ inner ∧
      back = outer ++ later.flatMap f := by
  induction parts generalizing front with
  | nil => simp at whole
  | cons part rest ih =>
      rw [List.flatMap_cons] at whole
      rcases List.append_eq_append_iff.mp whole with ⟨inner, rfl, split⟩ | ⟨inner, split, whole⟩
      · obtain ⟨former, part', later, inner', outer, rfl, own, rfl, rfl⟩ := ih split
        exact ⟨part :: former, part', later, inner', outer, rfl, own, by simp, rfl⟩
      · cases inner with
        | nil =>
            rw [List.append_nil] at split
            have whole : rest.flatMap f = [] ++ x :: back := whole.symm
            obtain ⟨former, part', later, inner', outer, rfl, own, empty, rfl⟩ := ih whole
            exact ⟨part :: former, part', later, inner', outer, rfl, own, by simp [← split, ← empty],
              rfl⟩
        | cons first inner =>
            rw [List.cons_append, List.cons.injEq] at whole
            obtain ⟨rfl, rfl⟩ := whole
            exact ⟨[], part, rest, front, inner, rfl, split, rfl, rfl⟩

namespace Frame

open Marked

variable {lines front back : List Line} {amount : Nat}

theorem Closed.not_of_append {line : Line} (closed : Closed (front ++ line :: back)) :
    ∀ other ∈ front, other.isFunctionEnd = false := by
  intro other member
  apply closed other
  rw [List.dropLast_append_of_ne_nil (List.cons_ne_nil line back)]
  exact List.mem_append_left _ member

theorem mem_of_mem_expandLeaves {position : Nat} {line : Line}
    (member : line ∈ expandLeaves position lines) : line.isInstruction = true ∨ line ∈ lines := by
  fun_induction expandLeaves position lines with
  | case1 => contradiction
  | case2 position first rest _ ih =>
      rcases List.mem_cons.mp member with rfl | member
      · exact .inl (isInstruction_restore first.number)
      · rcases List.mem_cons.mp member with rfl | member
        · exact .inl (isInstruction_pop (position + 1))
        · exact (ih member).imp_right (List.mem_cons_of_mem _)
  | case3 position first rest _ ih =>
      rcases List.mem_cons.mp member with rfl | member
      · exact .inr (List.mem_cons_self ..)
      · exact (ih member).imp_right (List.mem_cons_of_mem _)

theorem released_or_mem_of_markReleases {item : Marked}
    (member : item ∈ markReleases amount lines) :
    item.mark = .released ∧ item.line.content = release amount ∨
      item.mark = .kept ∧ item.line ∈ lines := by
  obtain ⟨front, back, split⟩ := List.append_of_mem member
  by_cases stays : item.mark = .kept
  · refine .inr ⟨stays, ?_⟩
    rw [← kept_markReleases amount lines, split, kept_append]
    simp [kept, stays]
  · obtain ⟨releases, text, -⟩ := release_of_not_kept split stays
    exact .inl ⟨releases, text⟩

theorem not_grown_of_mem_markReleases {item : Marked}
    (member : item ∈ markReleases amount lines) : item.mark ≠ .grown := by
  rcases released_or_mem_of_markReleases member with ⟨mark, -⟩ | ⟨mark, -⟩ <;> simp [mark]

theorem expandLeaves_of_label {label : Line} (labels : label.isFunctionLabel = true) (position : Nat)
    (rest : List Line) :
    expandLeaves position (label :: rest) = label :: expandLeaves (position + 1) rest := by
  have stays : ¬label.isLeave = true := by
    intro leave
    rw [isFunctionLabel_of_isInstruction (Line.isInstruction_of_isLeave leave)] at labels
    contradiction
  rw [expandLeaves, if_neg stays]

theorem splitAtFirst?_of_label {label push : Line} {before rest : List Line}
    (labels : label.isFunctionLabel = true)
    (prologue : splitAtFirst? Line.isFramePush (label :: lines) = some (before, push, rest)) :
    ∃ between, before = label :: between ∧ lines = between ++ push :: rest := by
  obtain ⟨whole, pushes⟩ := eq_of_splitAtFirst? prologue
  cases before with
  | nil =>
      rw [List.nil_append, List.cons.injEq] at whole
      rw [whole.1, isFunctionLabel_of_isInstruction (Line.isInstruction_of_isFramePush pushes)]
        at labels
      contradiction
  | cons first between =>
      rw [List.cons_append, List.cons.injEq] at whole
      exact ⟨between, by rw [whole.1], whole.2⟩

theorem endless_in_front {before behind : List Line} {push : Line} {inside outer : List Marked}
    {item : Marked} (open' : Closed (before ++ push :: behind)) (pushes : push.isFramePush = true)
    (closed : Closed behind) (marks : markReleases amount behind = inside ++ item :: outer) :
    ∀ other ∈ before.map keep ++ [keep push, ⟨push.withContent (growth amount), .grown⟩] ++ inside,
      other.line.isFunctionEnd = false := by
  intro other member
  rcases List.mem_append.mp member with member | member
  · rcases List.mem_append.mp member with member | member
    · obtain ⟨line, listed, rfl⟩ := List.mem_map.mp member
      exact open'.not_of_append line listed
    · have instruction : other.line.isInstruction = true := by
        rcases List.mem_cons.mp member with rfl | member
        · exact Line.isInstruction_of_isFramePush pushes
        · rw [List.mem_singleton.mp member]
          exact isInstruction_growth amount push.number
      exact TellsLandmark.isFunctionEnd.no_instruction _ instruction
  · have ends := closed_markReleases closed amount
    rw [marks, List.map_append, List.map_cons] at ends
    exact ends.not_of_append other.line (List.mem_map_of_mem member)

end Frame

namespace FramePart

open AsmLayout.Frame Marked

variable {dialect : Dialect} {amount : Nat} {lines : List Line}

theorem head?_mark (dialect : Dialect) (amount : Nat) {body : List Line}
    (met : function body ∈ cut lines) :
    ((function body).mark dialect amount).head?.any (·.line.isFunctionLabel) = true := by
  obtain ⟨-, labels, -⟩ := closed_of_mem_cut met
  cases body with
  | nil => contradiction
  | cons label rest =>
      rw [List.head?_cons, Option.any_some] at labels
      rw [mark]
      cases Frame.pad dialect amount (label :: rest) with
      | error reason => exact labels
      | ok padded =>
          rw [Frame.mark, expandLeaves_of_label labels]
          cases prologue : splitAtFirst? Line.isFramePush (label :: expandLeaves (0 + 1) rest) with
          | none => exact labels
          | some found =>
              obtain ⟨before, push, behind⟩ := found
              obtain ⟨between, rfl, -⟩ := splitAtFirst?_of_label labels prologue
              exact labels

theorem not_grown_of_mem_takeWhile {parts : List FramePart} (met : ∀ part ∈ parts, part ∈ cut lines)
    {item : Marked} (member : item ∈ (parts.flatMap (mark dialect amount)).takeWhile
      (!·.line.isFunctionLabel)) : item.mark ≠ .grown := by
  have single {line : Line} {rest : List FramePart}
      (ih : item ∈ (rest.flatMap (mark dialect amount)).takeWhile (!·.line.isFunctionLabel) →
        item.mark ≠ .grown)
      (member : item ∈ ([keep line] ++ rest.flatMap (mark dialect amount)).takeWhile
        (!·.line.isFunctionLabel)) : item.mark ≠ .grown := by
    rw [List.singleton_append, List.takeWhile_cons] at member
    split at member
    · rcases List.mem_cons.mp member with rfl | later
      · simp [keep]
      · exact ih later
    · contradiction
  induction parts with
  | nil => contradiction
  | cons part rest ih =>
      have ih := ih fun part member => met part (List.mem_cons_of_mem _ member)
      rw [List.flatMap_cons] at member
      cases part with
      | outside line => exact single ih member
      | orphan line => exact single ih member
      | function body =>
          have labels := head?_mark dialect amount (met _ (List.mem_cons_self ..))
          cases marked : (function body).mark dialect amount with
          | nil => simp [marked] at labels
          | cons first others =>
              rw [marked, List.head?_cons, Option.any_some] at labels
              rw [marked, List.cons_append, List.takeWhile_cons_of_neg (by simp [labels])] at member
              contradiction

theorem content_of_mark {part : FramePart} {item : Marked}
    (member : item ∈ part.mark dialect amount) :
    (item.mark = .grown → item.line.content = growth amount) ∧
      (item.mark = .released → item.line.content = release amount) := by
  have stays {lines : List Line} (member : item ∈ lines.map keep) : item.mark = .kept := by
    obtain ⟨line, -, rfl⟩ := List.mem_map.mp member
    rfl
  have unmarked (mark : item.mark = .kept) :
      (item.mark = .grown → item.line.content = growth amount) ∧
        (item.mark = .released → item.line.content = release amount) := by
    simp [mark]
  cases part with
  | outside line => exact unmarked (stays (show item ∈ [line].map keep from member))
  | orphan line => exact unmarked (stays (show item ∈ [line].map keep from member))
  | function body =>
      rw [mark] at member
      split at member
      · rw [Frame.mark] at member
        split at member
        · exact unmarked (stays member)
        · rcases List.mem_append.mp member with member | member
          · exact unmarked (stays member)
          · rcases List.mem_cons.mp member with rfl | member
            · exact unmarked rfl
            · rcases List.mem_cons.mp member with rfl | member
              · exact ⟨fun _ => rfl, fun other => by simp at other⟩
              · rcases released_or_mem_of_markReleases member with ⟨mark, text⟩ | ⟨mark, -⟩
                · exact ⟨fun other => by simp [mark] at other, fun _ => text⟩
                · exact unmarked mark
      · exact unmarked (stays member)

/-- A release of a part, and the growth and the label in front of it. -/
theorem exists_growth_of_released {part : FramePart} (met : part ∈ cut lines)
    {inner outer : List Marked} {item : Marked}
    (split : part.mark dialect amount = inner ++ item :: outer) (releases : item.mark = .released) :
    ∃ label rest between push inside behind, part = function (label :: rest) ∧
      label.isFunctionLabel = true ∧ expandLeaves 1 rest = between ++ push :: behind ∧
      push.isFramePush = true ∧
      inner = keep label :: (between.map keep ++ keep push ::
        ⟨push.withContent (growth amount), .grown⟩ :: inside) ∧
      markReleases amount behind = inside ++ item :: outer ∧
      (∀ other ∈ inner, other.line.isFunctionEnd = false) := by
  have unkept {lines : List Line} (member : item ∈ lines.map keep) : False := by
    obtain ⟨line, -, rfl⟩ := List.mem_map.mp member
    contradiction
  have listed : item ∈ part.mark dialect amount := by
    rw [split]
    exact List.mem_append_right _ (List.mem_cons_self ..)
  cases part with
  | outside line => exact (unkept (show item ∈ [line].map keep from listed)).elim
  | orphan line => exact (unkept (show item ∈ [line].map keep from listed)).elim
  | function body =>
      obtain ⟨closed, labels, -⟩ := closed_of_mem_cut met
      cases body with
      | nil => contradiction
      | cons label rest =>
          rw [List.head?_cons, Option.any_some] at labels
          rw [mark] at split listed
          cases pads : Frame.pad dialect amount (label :: rest) with
          | error reason =>
              rw [pads] at listed
              exact absurd listed unkept
          | ok padded =>
              rw [pads] at split
              obtain ⟨before, push, behind, prologue, closed', -⟩ := mark_of_pad closed pads
              obtain ⟨whole, pushes⟩ := eq_of_splitAtFirst? prologue
              have open' := closed_expandLeaves closed 0
              rw [whole] at open'
              have front : before.map keep ++ [keep push, ⟨push.withContent (growth amount), .grown⟩] ++
                  markReleases amount behind = inner ++ item :: outer := by
                simpa [Frame.mark, prologue] using split
              -- A release is none of the lines up to the growth, so it stands behind them.
              have absent : item ∉ before.map keep ++
                  [keep push, ⟨push.withContent (growth amount), .grown⟩] := by
                intro member
                rcases List.mem_append.mp member with member | member
                · exact unkept member
                · rcases List.mem_cons.mp member with rfl | member
                  · contradiction
                  · rw [List.mem_singleton.mp member] at releases
                    contradiction
              obtain ⟨inside, rfl, marks⟩ := exists_of_append_eq front absent
              rw [expandLeaves_of_label labels] at prologue
              obtain ⟨between, rfl, tail⟩ := splitAtFirst?_of_label labels prologue
              refine ⟨label, rest, between, push, inside, behind, rfl, labels, tail, pushes, by simp,
                marks, endless_in_front open' pushes closed' marks⟩

end FramePart

namespace Section

open Marked

/-- A release in a padded section: the function that it belongs to, and what stands around it. -/
theorem exists_growth_of_released {sec : Section} {amount : Nat} {front back : List Marked}
    {item : Marked} (split : sec.marked amount = front ++ item :: back)
    (releases : item.mark = .released) :
    ∃ former label rest between push inside behind later,
      .function (label :: rest) ∈ FramePart.cut sec.lines ∧ label.isFunctionLabel = true ∧
      Frame.expandLeaves 1 rest = between ++ push :: behind ∧ push.isFramePush = true ∧
      front = former ++ keep label :: (between.map keep ++ keep push ::
        ⟨push.withContent (Frame.growth (alignDown amount)), .grown⟩ :: inside) ∧
      Frame.markReleases (alignDown amount) behind = inside ++ item :: later ∧
      (∀ other ∈ keep label :: (between.map keep ++ keep push ::
        ⟨push.withContent (Frame.growth (alignDown amount)), .grown⟩ :: inside),
        other.line.isFunctionEnd = false) ∧
      ((neighbours front back).any (·.mark = .grown) = true ↔
        ∀ other ∈ inside, other.line.isFunctionLabel = false) := by
  obtain ⟨former, part, later, inner, outer, parts, own, rfl, rfl⟩ := exists_part_of_flatMap split
  have met : part ∈ FramePart.cut sec.lines := by
    rw [parts]
    exact List.mem_append_right _ (List.mem_cons_self ..)
  have met' : ∀ part ∈ later, part ∈ FramePart.cut sec.lines := by
    intro part member
    rw [parts]
    exact List.mem_append_right _ (List.mem_cons_of_mem _ member)
  obtain ⟨label, rest, between, push, inside, behind, rfl, labels, expanded, pushes, rfl, marks,
    endless⟩ := FramePart.exists_growth_of_released met own releases
  have single {other : Marked} (member : other ∈ inside ++ item :: outer) : other.mark ≠ .grown := by
    rw [← marks] at member
    exact Frame.not_grown_of_mem_markReleases member
  have none : ∀ other ∈ (outer ++ later.flatMap (FramePart.mark sec.dialect (alignDown amount))).takeWhile
      (!·.line.isFunctionLabel), other.mark ≠ .grown := by
    intro other member
    rw [List.takeWhile_append] at member
    split at member
    · rcases List.mem_append.mp member with own | next
      · exact single (List.mem_append_right _ (List.mem_cons_of_mem _ own))
      · exact FramePart.not_grown_of_mem_takeWhile met' next
    · have own := (List.takeWhile_sublist _).mem member
      exact single (List.mem_append_right _ (List.mem_cons_of_mem _ own))
  have unlabelled : (push.withContent (Frame.growth (alignDown amount))).isFunctionLabel = false :=
    isFunctionLabel_of_isInstruction (Frame.isInstruction_growth _ push.number)
  have front : former.flatMap (FramePart.mark sec.dialect (alignDown amount)) ++
        keep label :: (between.map keep ++ keep push ::
          ⟨push.withContent (Frame.growth (alignDown amount)), .grown⟩ :: inside) =
      (former.flatMap (FramePart.mark sec.dialect (alignDown amount)) ++
        keep label :: (between.map keep ++ [keep push])) ++
          ⟨push.withContent (Frame.growth (alignDown amount)), .grown⟩ :: inside := by
    simp
  refine ⟨_, label, rest, between, push, inside, behind, outer, met, labels, expanded, pushes, rfl,
    marks, endless, ?_⟩
  rw [front]
  exact any_grown_neighbours_iff rfl unlabelled
    (fun other member => single (List.mem_append_left _ member)) none

/-- Every release stands behind a growth and a function label with no function end in between. The
    stretch from one function label to the next that holds the release holds a growth exactly if no
    function label came in between; so it does in every section whose functions hold no label but
    the first. -/
theorem release_beside_growth_iff (sec : Section) (amount : Nat) :
    let marked := sec.marked amount
    (sec.padFrames amount).1.contents = marked.map (·.line.content) ∧
    kept marked = (FramePart.cut sec.lines).flatMap
      (FramePart.written sec.dialect (alignDown amount)) ∧
    (∀ item ∈ marked, item.mark = .grown → item.line.content = Frame.growth (alignDown amount)) ∧
    (∀ item ∈ marked, item.mark = .released →
      item.line.content = Frame.release (alignDown amount)) ∧
    (∀ front item back, marked = front ++ item :: back → item.mark = .released →
      ∃ outer label before growth inner, front = outer ++ label :: (before ++ growth :: inner) ∧
        label.mark = .kept ∧ label.line.isFunctionLabel = true ∧ growth.mark = .grown ∧
        (∀ other ∈ label :: (before ++ growth :: inner), other.line.isFunctionEnd = false) ∧
        ((neighbours front back).any (·.mark = .grown) = true ↔
          ∀ other ∈ inner, other.line.isFunctionLabel = false)) ∧
    ((∀ body, .function body ∈ FramePart.cut sec.lines → ∀ line ∈ body.tail,
        line.isFunctionLabel = false) →
      ∀ front item back, marked = front ++ item :: back → item.mark = .released →
        (neighbours front back).any (·.mark = .grown) = true) := by
  intro marked
  have told {item : Marked} (member : item ∈ marked) :
      (item.mark = .grown → item.line.content = Frame.growth (alignDown amount)) ∧
        (item.mark = .released → item.line.content = Frame.release (alignDown amount)) := by
    obtain ⟨part, -, listed⟩ := List.mem_flatMap.mp member
    exact FramePart.content_of_mark listed
  refine ⟨sec.contents_padFrames amount, sec.kept_marked amount, fun item member => (told member).1,
    fun item member => (told member).2, ?_, ?_⟩
  · intro front item back split releases
    obtain ⟨former, label, rest, between, push, inside, behind, later, -, labels, -, pushes, rfl,
      -, endless, iff⟩ := exists_growth_of_released split releases
    exact ⟨former, keep label, between.map keep ++ [keep push],
      ⟨push.withContent (Frame.growth (alignDown amount)), .grown⟩, inside, by simp, rfl, labels, rfl,
      by simpa using endless, iff⟩
  · intro unlabelled front item back split releases
    obtain ⟨former, label, rest, between, push, inside, behind, later, met, -, expanded, -, -, marks,
      -, iff⟩ := exists_growth_of_released split releases
    apply iff.mpr
    intro other member
    have listed : other ∈ Frame.markReleases (alignDown amount) behind := by
      rw [marks]
      exact List.mem_append_left _ member
    -- The lines in between are releases, leaves written out, and lines of the function itself.
    rcases Frame.released_or_mem_of_markReleases listed with ⟨-, text⟩ | ⟨-, stays⟩
    · apply isFunctionLabel_of_isInstruction
      exact Line.isInstruction_of_spelling (text ▸ Frame.spelling_release _) (by decide) (by decide)
    · have leaf : other.line ∈ Frame.expandLeaves 1 rest := by
        rw [expanded]
        exact List.mem_append_right _ (List.mem_cons_of_mem _ stays)
      rcases Frame.mem_of_mem_expandLeaves leaf with instruction | own
      · exact isFunctionLabel_of_isInstruction instruction
      · exact unlabelled (label :: rest) met other.line own

/-- Two functions, each with an end of its own. -/
theorem release_beside_growth_in_each_function :
    let sec := ofLines .gcc (Line.numbered 0 ["f:", "\tpushq\t%rbp", "\tpopq\t%rbp", "\tret",
      "\t.cfi_endproc", "g:", "\tpushq\t%rbp", ".L1:", "\tleave", "\tret", "\t.cfi_endproc"])
    (∀ body, .function body ∈ FramePart.cut sec.lines → ∀ line ∈ body.tail,
      line.isFunctionLabel = false) ∧
    (sec.marked 16).map (fun item => (item.line.content, item.mark)) =
      [("f:", .kept), ("\tpushq\t%rbp", .kept), ("\tsubq $16, %rsp", .grown),
        ("\taddq $16, %rsp", .released), ("\tpopq\t%rbp", .kept), ("\tret", .kept),
        ("\t.cfi_endproc", .kept), ("g:", .kept), ("\tpushq\t%rbp", .kept),
        ("\tsubq $16, %rsp", .grown), (".L1:", .kept), ("\tmovq %rbp, %rsp", .kept),
        ("\taddq $16, %rsp", .released), ("\tpopq %rbp", .kept), ("\tret", .kept),
        ("\t.cfi_endproc", .kept)] ∧
    ∀ front item back, sec.marked 16 = front ++ item :: back → item.mark = .released →
      (neighbours front back).any (·.mark = .grown) = true := by
  intro sec
  have single : ∀ body, .function body ∈ FramePart.cut sec.lines → ∀ line ∈ body.tail,
      line.isFunctionLabel = false := by
    have functions : FramePart.cut sec.lines = [.function (sec.lines.take 5),
        .function (sec.lines.drop 5)] := by decide +kernel
    rw [functions]
    intro body met
    simp only [List.mem_cons, List.not_mem_nil, or_false, FramePart.function.injEq] at met
    rcases met with rfl | rfl <;> decide +kernel
  exact ⟨single, by decide +kernel, (release_beside_growth_iff sec 16).2.2.2.2.2 single⟩

/-- The second function of a block releases its frame, which only the first one has grown. -/
theorem release_without_growth :
    let sec := ofLines .libfirm (Line.numbered 0 ["f:", "\tpushq %rbp", "\tpopq %rbp", "\tret",
      "g:", "\tpushq %rbp", "\tpopq %rbp", "\tret"])
    let front := (sec.marked 16).take 8
    let back := (sec.marked 16).drop 9
    (sec.padFrames 16).2 = [.padded "f" 16 2] ∧
    (sec.padFrames 16).1.contents = ["f:", "\tpushq %rbp", "\tsubq $16, %rsp",
      "\taddq $16, %rsp", "\tpopq %rbp", "\tret", "g:", "\tpushq %rbp", "\taddq $16, %rsp",
      "\tpopq %rbp", "\tret"] ∧
    sec.marked 16 = front ++ ⟨⟨"\taddq $16, %rsp", 6⟩, .released⟩ :: back ∧
    (neighbours front back).map (·.line.content) =
      ["\tpushq %rbp", "\tpopq %rbp", "\tret"] ∧
    (neighbours front back).any (·.mark = .grown) = false := by
  decide +kernel

end Section

end AsmLayout
