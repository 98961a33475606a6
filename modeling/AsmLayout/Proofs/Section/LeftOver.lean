import AsmLayout.Proofs.Section.Release

/-! # Frame pops that are left over

A frame pop or a leave behind the frame push is left over when no return follows before the next of
them, unless it is a frame pop behind a line that reads like the release. A function whose returns can
all be patched is given up at the first line that is left over, and padded where there is none. A frame
pop is told by its number. The frame pop that a leave is written out to has no number of its own and is
told by its place in the function.
-/

namespace AsmLayout

/-- A line that pops the frame, as it is or when leaves are written out. -/
def Line.popsFrame (line : Line) : Bool :=
  line.isFramePop || line.isLeave

namespace Frame

open Marked

/-- Whether a return comes before the next line that pops the frame. -/
def returnFollows : List Line → Bool
  | [] => false
  | line :: rest => line.isReturn || (!line.popsFrame && returnFollows rest)

/-- Whether a line of a function is left over, from the lines in front of it and behind it. -/
def isLeftOver (amount : Nat) (front : List Line) (line : Line) (back : List Line) : Bool :=
  front.any Line.isFramePush && line.popsFrame && !returnFollows back &&
    (line.isLeave || !front.getLast?.any (·.content == release amount))

structure FirstLeftOver (amount : Nat) (body front : List Line) (line : Line) (back : List Line) :
    Prop where
  whole : body = front ++ line :: back
  left : isLeftOver amount front line back = true
  first : ∀ former other between, front = former ++ other :: between →
    isLeftOver amount former other (between ++ line :: back) = false

/-- The number that is told for a line that is left over. A leave is told by the place in the function
    that its frame pop gets when leaves are written out. -/
def toldNumber (front : List Line) (line : Line) : Nat :=
  if line.isLeave then front.length + front.countP Line.isLeave + 1 else line.number

/-- Find the first line that is left over, behind lines that are not. -/
def leftOver? (amount : Nat) (front : List Line) : List Line → Option (List Line × Line × List Line)
  | [] => none
  | line :: rest =>
    if isLeftOver amount front line rest then some (front, line, rest)
    else leftOver? amount (front ++ [line]) rest

variable {amount : Nat} {front lines : List Line}

theorem isLeftOver_of_leftOver? {front' back : List Line} {line : Line}
    (found : leftOver? amount front lines = some (front', line, back)) :
    isLeftOver amount front' line back = true ∧ ∃ inside, front' = front ++ inside ∧
      lines = inside ++ line :: back ∧ ∀ former other between, inside = former ++ other :: between →
        isLeftOver amount (front ++ former) other (between ++ line :: back) = false := by
  fun_induction leftOver? amount front lines with
  | case1 => contradiction
  | case2 front line rest left =>
      cases found
      exact ⟨left, [], by simp, rfl, by simp⟩
  | case3 front first rest other ih =>
      obtain ⟨left, inside, rfl, rfl, earlier⟩ := ih found
      refine ⟨left, first :: inside, List.append_cons .. ▸ rfl, rfl, ?_⟩
      intro former line' between split
      cases former with
      | nil =>
          cases split
          rw [List.append_nil]
          exact eq_false_of_ne_true other
      | cons head former =>
          cases split
          rw [List.append_cons]
          exact earlier former line' between rfl

theorem not_isLeftOver_of_leftOver? (none : leftOver? amount front lines = none) :
    ∀ inside line back, lines = inside ++ line :: back →
      isLeftOver amount (front ++ inside) line back = false := by
  fun_induction leftOver? amount front lines with
  | case1 => simp
  | case2 => contradiction
  | case3 front first rest other ih =>
      intro inside line back split
      cases inside with
      | nil =>
          cases split
          rw [List.append_nil]
          exact eq_false_of_ne_true other
      | cons head inside =>
          cases split
          rw [List.append_cons]
          exact ih none inside line back rfl

theorem isLeftOver_of_pushless (pushless : ∀ other ∈ front, other.isFramePush = false) (line : Line)
    (back : List Line) : isLeftOver amount front line back = false := by
  rw [isLeftOver, List.any_eq_false.mpr fun other member => by simp [pushless other member]]
  rfl

theorem leftOver?_at_push {before : List Line}
    (pushless : ∀ line ∈ front ++ before, line.isFramePush = false) (push : Line) (rest : List Line) :
    leftOver? amount front (before ++ push :: rest) =
      leftOver? amount (front ++ before ++ [push]) rest := by
  induction before generalizing front with
  | nil =>
      rw [List.append_nil] at pushless ⊢
      rw [List.nil_append, leftOver?, isLeftOver_of_pushless pushless, if_neg Bool.false_ne_true]
  | cons line before ih =>
      rw [List.append_cons front line before] at pushless ⊢
      have early : ∀ other ∈ front, other.isFramePush = false :=
        fun other member => pushless other (by simp [member])
      rw [List.cons_append, leftOver?, isLeftOver_of_pushless early, if_neg Bool.false_ne_true,
        ih pushless]

/-! ## Leaves written out -/

theorem head?_words_of_release {line : Line} (reads : line.content = release amount) :
    line.words.head? = some "addq".toList :=
  have spelling : line.chars = _ := (congrArg String.toList reads).trans (spelling_release amount)
  Line.head?_words_of_spelling spelling (by decide) (by decide)

theorem not_reads_of_head?_words {line : Line} {word : List Char}
    (first : line.words.head? = some word) (other : word ≠ "addq".toList) (amount : Nat) :
    (line.content == release amount) = false := by
  rw [beq_eq_false_iff_ne]
  intro reads
  rw [head?_words_of_release reads, Option.some.injEq] at first
  exact other first.symm

theorem not_reads_of_isLeave {line : Line} (leave : line.isLeave = true) (amount : Nat) :
    (line.content == release amount) = false := by
  rcases (Line.head?_words_of_isLeave leave).2 with first | first
  · exact not_reads_of_head?_words first (by decide) amount
  · exact not_reads_of_head?_words first (by decide) amount

theorem head?_words_of_isFramePush {line : Line} (pushes : line.isFramePush = true) :
    line.words.head? = some "pushq".toList := by
  obtain ⟨statement, push, first⟩ := Line.head?_words_of_isStatementWith pushes
  rw [Bool.and_eq_true, beq_iff_eq] at push
  rw [first, push.1]

theorem head?_words_of_isFramePop {line : Line} (pops : line.isFramePop = true) :
    line.words.head? = some "popq".toList := by
  obtain ⟨statement, pop, first⟩ := Line.head?_words_of_isStatementWith pops
  rw [Bool.and_eq_true, beq_iff_eq] at pop
  rw [first, pop.1]

theorem isLeave_of_isFramePush {line : Line} (pushes : line.isFramePush = true) :
    line.isLeave = false := by
  apply eq_false_of_ne_true
  intro leave
  have push := head?_words_of_isFramePush pushes
  rcases (Line.head?_words_of_isLeave leave).2 with first | first
  · exact absurd (push.symm.trans first) (by decide)
  · exact absurd (push.symm.trans first) (by decide)

theorem isReturn_of_isLeave {line : Line} (leave : line.isLeave = true) :
    line.isReturn = false := by
  apply eq_false_of_ne_true
  intro returns
  obtain ⟨statement, ret, first⟩ := Line.head?_words_of_isStatementWith returns
  rcases (Line.head?_words_of_isLeave leave).2 with first' | first'
  · rw [String.toList_injective (Option.some.inj (first.symm.trans first'))] at ret
    contradiction
  · rw [String.toList_injective (Option.some.inj (first.symm.trans first'))] at ret
    contradiction

theorem head?_words_restore (line : Line) :
    (line.withContent "\tmovq %rbp, %rsp").words.head? = some "movq".toList :=
  have spelling : (line.withContent "\tmovq %rbp, %rsp").chars = _ := spelling_restore
  Line.head?_words_of_spelling spelling (by decide) (by decide)

theorem isFramePop_restore (line : Line) :
    (line.withContent "\tmovq %rbp, %rsp").isFramePop = false :=
  isFramePop_of_head?_words (head?_words_restore line) (by decide)

theorem returnsNext_expandLeaves (position : Nat) (lines : List Line) :
    returnsNext (expandLeaves position lines) = returnFollows lines := by
  fun_induction expandLeaves position lines with
  | case1 => rfl
  | case2 position line rest leave ih =>
      have restores := Line.isPatchPoint_restore line.number
      have pops := Line.isPatchPoint_pop (position + 1)
      rw [Line.isPatchPoint, Bool.or_eq_false_iff] at restores pops
      simp only [returnsNext, returnFollows, Line.withContent, Line.popsFrame, restores.2, pops.2,
        Line.isFramePop_pop, isReturn_of_isLeave leave, leave, Bool.or_true, Bool.not_true,
        Bool.false_and, Bool.or_false, Bool.and_false]
  | case3 position line rest leave ih =>
      rw [returnsNext, returnFollows, Line.popsFrame, eq_false_of_ne_true leave, Bool.or_false, ih]

theorem firstUnpatched?_markReleases_cons {line : Line} (open' : line.isFunctionEnd = false)
    (previous : Line) (rest : List Line) :
    firstUnpatched? amount previous ((markReleases amount (line :: rest)).map (·.line)) =
      if line.isFramePop && !returnsNext rest && previous.content != release amount then some line
      else firstUnpatched? amount line ((markReleases amount rest).map (·.line)) := by
  rw [markReleases]
  cases pops : line.isFramePop with
  | false => simp [keep, firstUnpatched?, open', pops]
  | true =>
      cases returned : returnsNext rest with
      | false => simp [keep, firstUnpatched?, open', pops]
      | true =>
          have released := TellsLandmark.isFunctionEnd.no_instruction _
            (isInstruction_release amount line.number)
          have popless : (⟨release amount, line.number⟩ : Line).isFramePop = false :=
            isFramePop_release amount line
          simp [keep, firstUnpatched?, open', popless, released, Line.withContent]

/-- A place behind the frame push: behind `front` in a function, and behind `previous` at `position`
    when its leaves are written out. -/
structure Reached (amount : Nat) (front : List Line) (position : Nat) (previous : Line) : Prop where
  pushed : front.any Line.isFramePush = true
  counted : position = front.length + front.countP Line.isLeave
  reads : (previous.content == release amount) = front.getLast?.any (·.content == release amount)

theorem Reached.next {position : Nat} {previous : Line}
    (reached : Reached amount front position previous) (line : Line) {written : Line}
    (alike : (written.content == release amount) = (line.content == release amount)) :
    Reached amount (front ++ [line]) (position + 1 + if line.isLeave then 1 else 0) written where
  pushed := by rw [List.any_append, reached.pushed, Bool.true_or]
  counted := by
    rw [List.length_append, List.countP_append, List.length_singleton, List.countP_singleton,
      reached.counted]
    omega
  reads := by rw [List.getLast?_concat, Option.any_some, alike]

theorem reached_push {before : List Line} {push : Line} (pushes : push.isFramePush = true)
    (amount : Nat) :
    Reached amount (before ++ [push]) (before.length + before.countP Line.isLeave + 1)
      (push.withContent (growth amount)) where
  pushed := by simp [pushes]
  counted := by
    rw [List.length_append, List.countP_append, List.length_singleton, List.countP_singleton,
      isLeave_of_isFramePush pushes, if_neg Bool.false_ne_true]
    omega
  reads := by
    rw [List.getLast?_concat, Option.any_some,
      not_reads_of_head?_words (head?_words_of_isFramePush pushes) (by decide)]
    exact beq_eq_false_iff_ne.mpr (growth_ne_release amount)

/-- What is left over in a function is what is found unpatched when its leaves are written out. -/
theorem map_number_firstUnpatched? {position : Nat} {previous : Line} (closed : Closed lines)
    (reached : Reached amount front position previous) :
    (firstUnpatched? amount previous
      ((markReleases amount (expandLeaves position lines)).map (·.line))).map (·.number) =
        (leftOver? amount front lines).map fun found => toldNumber found.1 found.2.1 := by
  fun_induction expandLeaves position lines generalizing front previous with
  | case1 => rfl
  -- Of the two lines for a leave the second pops the frame, and the first stands in front of it.
  | case2 position line rest leave ih =>
      have open' : (line.withContent "\tmovq %rbp, %rsp").isFunctionEnd = false :=
        TellsLandmark.isFunctionEnd.no_instruction _ (isInstruction_restore line.number)
      have popped := Line.isFramePop_pop (position + 1)
      have silent : ((line.withContent "\tmovq %rbp, %rsp").content == release amount) = false :=
        not_reads_of_head?_words (head?_words_restore line) (by decide) amount
      rw [firstUnpatched?_markReleases_cons open', isFramePop_restore, Bool.false_and,
        Bool.false_and, if_neg Bool.false_ne_true,
        firstUnpatched?_markReleases_cons (isFunctionEnd_of_isFramePop popped), popped,
        returnsNext_expandLeaves, bne, silent, leftOver?, isLeftOver, reached.pushed,
        Line.popsFrame, leave]
      cases returned : returnFollows rest with
      | false =>
          simp only [Bool.or_true, Bool.true_or, Bool.not_false, Bool.and_true, ↓reduceIte,
            Option.map_some, toldNumber, leave, reached.counted]
      | true =>
          have alike : ((⟨"\tpopq %rbp", position + 1⟩ : Line).content == release amount) =
              (line.content == release amount) := by
            rw [not_reads_of_isLeave leave,
              not_reads_of_head?_words (head?_words_of_isFramePop popped) (by decide)]
          have behind := reached.next line alike
          rw [if_pos leave] at behind
          simp only [Bool.not_true, Bool.and_false, Bool.false_and, Bool.false_eq_true, ↓reduceIte]
          exact ih closed.of_cons behind
  | case3 position line rest leave ih =>
      have other := eq_false_of_ne_true leave
      have behind := reached.next line rfl
      rw [if_neg leave] at behind
      cases ends : line.isFunctionEnd with
      -- The search stops at a function end, which has nothing behind it.
      | true =>
          have popless : line.isFramePop = false := by
            apply eq_false_of_ne_true
            intro pops
            rw [isFunctionEnd_of_isFramePop pops] at ends
            contradiction
          rw [closed.eq_nil ends, expandLeaves, markReleases_of_not (by rw [popless, Bool.false_and]),
            leftOver?, isLeftOver, Line.popsFrame, popless, other]
          simp [firstUnpatched?, ends, keep, leftOver?]
      | false =>
          rw [firstUnpatched?_markReleases_cons ends, returnsNext_expandLeaves, bne, reached.reads,
            leftOver?, isLeftOver, reached.pushed, Line.popsFrame, other, Bool.or_false,
            Bool.true_and, Bool.false_or]
          split
          · simp [toldNumber, other]
          · exact ih closed.of_cons behind

theorem length_expandLeaves (position : Nat) (lines : List Line) :
    (expandLeaves position lines).length = lines.length + lines.countP Line.isLeave := by
  fun_induction expandLeaves position lines with
  | case1 => rfl
  | case2 position line rest leave ih =>
      rw [List.length_cons, List.length_cons, ih, List.length_cons, List.countP_cons_of_pos leave]
      omega
  | case3 position line rest leave ih =>
      rw [List.length_cons, ih, List.length_cons, List.countP_cons_of_neg leave]
      omega

theorem expandLeaves_append (position : Nat) (xs ys : List Line) :
    expandLeaves position (xs ++ ys) =
      expandLeaves position xs ++ expandLeaves (position + (expandLeaves position xs).length) ys := by
  fun_induction expandLeaves position xs with
  | case1 => rfl
  | case2 position line rest leave ih =>
      rw [List.cons_append, expandLeaves, if_pos leave, ih, List.length_cons, List.length_cons]
      simp only [List.cons_append, Nat.add_assoc, Nat.add_comm 2]
  | case3 position line rest leave ih =>
      rw [List.cons_append, expandLeaves, if_neg leave, ih, List.length_cons]
      simp only [List.cons_append, Nat.add_assoc, Nat.add_comm 1]

theorem pushless_of_expandLeaves {position : Nat} {lines : List Line}
    (pushless : ∀ line ∈ expandLeaves position lines, line.isFramePush = false) :
    ∀ line ∈ lines, line.isFramePush = false := by
  fun_induction expandLeaves position lines with
  | case1 => simp
  | case2 position line rest leave ih =>
      intro other member
      rcases List.mem_cons.mp member with rfl | later
      · apply eq_false_of_ne_true
        intro pushes
        rw [isLeave_of_isFramePush pushes] at leave
        contradiction
      · refine ih (fun line' inner => pushless line' ?_) other later
        exact List.mem_cons_of_mem _ (List.mem_cons_of_mem _ inner)
  | case3 position line rest leave ih =>
      intro other member
      rcases List.mem_cons.mp member with rfl | later
      · exact pushless other (List.mem_cons_self ..)
      · exact ih (fun line' inner => pushless line' (List.mem_cons_of_mem _ inner)) other later

theorem split_at_push {body before rest : List Line} {push : Line}
    (prologue : splitAtFirst? Line.isFramePush (expandLeaves 0 body) = some (before, push, rest)) :
    ∃ before' rest', body = before' ++ push :: rest' ∧
      (∀ line ∈ before', line.isFramePush = false) ∧ push.isFramePush = true ∧
      rest = expandLeaves (before'.length + before'.countP Line.isLeave + 1) rest' := by
  obtain ⟨whole, pushed⟩ := eq_of_splitAtFirst? prologue
  have point : push.isPatchPoint = true := by rw [Line.isPatchPoint, pushed, Bool.true_or]
  obtain ⟨before', rest', position, rfl, rfl, -⟩ := split_of_expandLeaves point whole
  have kept : ¬push.isLeave = true := by
    simp [isLeave_of_isFramePush pushed]
  rw [expandLeaves_append, expandLeaves, if_neg kept, List.append_cancel_left_eq,
    List.cons.injEq, length_expandLeaves, Nat.zero_add] at whole
  exact ⟨before', rest', rfl, pushless_of_expandLeaves (not_of_splitAtFirst? prologue), pushed,
    whole.2.symm⟩

theorem map_number_unpatched {body before rest : List Line} {push : Line} (closed : Closed body)
    (amount : Nat)
    (prologue : splitAtFirst? Line.isFramePush (expandLeaves 0 body) = some (before, push, rest)) :
    (firstUnpatched? amount (push.withContent (growth amount))
      ((markReleases amount rest).map (·.line))).map (·.number) =
        (leftOver? amount [] body).map fun found => toldNumber found.1 found.2.1 := by
  obtain ⟨before', rest', rfl, pushless, pushed, rfl⟩ := split_at_push prologue
  rw [leftOver?_at_push pushless, List.nil_append]
  exact map_number_firstUnpatched? closed.of_append.of_cons (reached_push pushed amount)

/-! ## What padding a function answers -/

/-- What padding a function may answer, and for which line. -/
inductive Answers (dialect : Dialect) (amount : Nat) (body : List Line) :
    Except SkipReason Padded → Prop where
  | padded {result : Padded} (clean : ∀ front line back, body = front ++ line :: back →
      isLeftOver amount front line back = false) : Answers dialect amount body (.ok result)
  | truncated (marked : dialect = .gcc) (unfinished : body.getLast?.any (·.isFunctionEnd) = false) :
      Answers dialect amount body (.error (.truncated (functionName body)))
  | missingPrologue (pushless : ∀ line ∈ body, line.isFramePush = false) :
      Answers dialect amount body (.error (.missingPrologue (functionName body)))
  | missingEpilogue {point ret : Nat} {line : Line} (unreleased : Unreleased body point ret)
      (there : body[ret]? = some line) :
      Answers dialect amount body (.error (.missingEpilogue (functionName body) line.number))
  | unpatchedEpilogue {front back : List Line} {line : Line}
      (left : FirstLeftOver amount body front line back) :
      Answers dialect amount body
        (.error (.unpatchedEpilogue (functionName body) (toldNumber front line)))

variable {dialect : Dialect} {body : List Line}

theorem reason_of_pad {reason : SkipReason} (fails : pad dialect amount body = .error reason) :
    (dialect = .gcc ∧ body.getLast?.any (·.isFunctionEnd) = false ∧
      reason = .truncated (functionName body)) ∨
    (splitAtFirst? Line.isFramePush (expandLeaves 0 body) = none ∧
      reason = .missingPrologue (functionName body)) ∨
    ∃ before push rest,
      splitAtFirst? Line.isFramePush (expandLeaves 0 body) = some (before, push, rest) ∧
      (patchReturns (functionName body) amount rest = .error reason ∨
        ∃ patched returns pop,
          patchReturns (functionName body) amount rest = .ok (patched, returns) ∧
          firstUnpatched? amount (push.withContent (growth amount)) patched = some pop ∧
          reason = .unpatchedEpilogue (functionName body) pop.number) := by
  simp only [pad] at fails
  split at fails
  · rename_i unfinished
    cases fails
    rw [Bool.and_eq_true, beq_iff_eq, Bool.not_eq_true'] at unfinished
    exact .inl ⟨unfinished.1, unfinished.2, rfl⟩
  · split at fails
    · rename_i prologue
      cases fails
      exact .inr (.inl ⟨prologue, rfl⟩)
    · rename_i before push rest prologue
      refine .inr (.inr ⟨before, push, rest, prologue, ?_⟩)
      split at fails
      · rename_i patches
        cases fails
        exact .inl patches
      · rename_i patched returns patches
        split at fails
        · rename_i pop unpatched
          cases fails
          exact .inr ⟨patched, returns, pop, patches, unpatched, rfl⟩
        · cases fails

theorem pad_answers (closed : Closed body) (dialect : Dialect) (amount : Nat) :
    Answers dialect amount body (pad dialect amount body) := by
  cases pads : pad dialect amount body with
  | ok result =>
      obtain ⟨before, push, rest, prologue, -, -, -, clean⟩ := mark_of_pad closed pads
      have none := map_number_unpatched closed amount prologue
      rw [clean, Option.map_none, eq_comm, Option.map_eq_none_iff] at none
      exact .padded (not_isLeftOver_of_leftOver? none)
  | error reason =>
      rcases reason_of_pad pads with ⟨marked, unfinished, rfl⟩ | ⟨pushless, rfl⟩ |
        ⟨before, push, rest, prologue, fails | ⟨patched, returns, pop, patches, unpatched, rfl⟩⟩
      · exact .truncated marked unfinished
      · exact .missingPrologue (pushless_of_expandLeaves
          (not_of_splitAtFirst?_eq_none (closed_expandLeaves closed 0) pushless))
      · have point : push.isPatchPoint = true := by
          rw [Line.isPatchPoint, (eq_of_splitAtFirst? prologue).2, Bool.true_or]
        obtain ⟨_, _, _, _, _, -, -, -, -, rfl⟩ := eq_of_patchReturns fails point
        obtain ⟨-, point, ret, unreleased, there⟩ := unreleased_of_pad pads
        obtain ⟨line, there, same⟩ := Option.map_eq_some_iff.mp there
        rw [← same]
        exact .missingEpilogue unreleased there
      · have behind := (closed_expandLeaves closed 0).of_splitAtFirst? prologue
        obtain ⟨rfl, -⟩ := markReleases_of_patchReturns behind patches
        have told := map_number_unpatched closed amount prologue
        rw [unpatched, Option.map_some, eq_comm, Option.map_eq_some_iff] at told
        obtain ⟨⟨front, line, back⟩, found, same⟩ := told
        obtain ⟨left, inside, rfl, whole, first⟩ := isLeftOver_of_leftOver? found
        rw [← same]
        exact .unpatchedEpilogue ⟨whole, left, first⟩

end Frame

end AsmLayout
