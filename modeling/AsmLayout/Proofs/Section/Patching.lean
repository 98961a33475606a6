import AsmLayout.Proofs.Section.FrameInsertion

/-! # The shape of a padded function

A function whose leaves are written out is cut at its first frame push and behind every later return.
Padding puts one growth behind the push and one release in front of the last frame pop of every
stretch, and nothing else. It succeeds where every stretch has one frame pop and none is left over.
-/

namespace AsmLayout

namespace Frame

/-! ## Functions that end where their lines do -/

/-- At most the last line is a function end. -/
def Closed (lines : List Line) : Prop :=
  ∀ line ∈ lines.dropLast, line.isFunctionEnd = false

theorem Closed.of_append {front back : List Line} (closed : Closed (front ++ back)) :
    Closed back := by
  cases back with
  | nil => simp [Closed]
  | cons line back =>
      intro other member
      apply closed other
      rw [List.dropLast_append_of_ne_nil (List.cons_ne_nil line back)]
      exact List.mem_append_right front member

theorem Closed.of_cons {line : Line} {rest : List Line} (closed : Closed (line :: rest)) :
    Closed rest :=
  Closed.of_append (show Closed ([line] ++ rest) from closed)

theorem Closed.eq_nil {line : Line} {rest : List Line} (closed : Closed (line :: rest))
    (ends : line.isFunctionEnd = true) : rest = [] := by
  cases rest with
  | nil => rfl
  | cons next rest =>
      have open' := closed line (by simp)
      rw [ends] at open'
      contradiction

theorem Closed.cons {line : Line} {rest : List Line} (open' : line.isFunctionEnd = false)
    (closed : Closed rest) : Closed (line :: rest) := by
  cases rest with
  | nil => simp [Closed]
  | cons next rest =>
      intro other member
      rw [List.dropLast_cons_cons] at member
      rcases List.mem_cons.mp member with rfl | later
      · exact open'
      · exact closed other later

theorem closed_expandLeaves {lines : List Line} (closed : Closed lines) (position : Nat) :
    Closed (expandLeaves position lines) := by
  fun_induction expandLeaves position lines with
  | case1 => exact closed
  | case2 position line rest _ ih =>
      have restores := TellsLandmark.isFunctionEnd.no_instruction _ (isInstruction_restore line.number)
      have pops := TellsLandmark.isFunctionEnd.no_instruction _ (isInstruction_pop (position + 1))
      exact .cons restores (.cons pops (ih closed.of_cons))
  | case3 position line rest _ ih =>
      cases ends : line.isFunctionEnd with
      | false => exact .cons ends (ih closed.of_cons)
      | true =>
          rw [closed.eq_nil ends]
          simp [Closed, expandLeaves]

theorem not_of_splitAtFirst?_eq_none {property : Line → Bool} {lines : List Line}
    (closed : Closed lines) (none : splitAtFirst? property lines = none) :
    ∀ line ∈ lines, property line = false := by
  fun_induction splitAtFirst? property lines with
  | case1 => simp
  | case2 => contradiction
  | case3 line rest other ends =>
      rw [closed.eq_nil ends]
      intro line' member
      rw [List.mem_singleton.mp member]
      exact eq_false_of_ne_true other
  | case4 => contradiction
  | case5 line rest other _ _ ih =>
      rename_i splits
      intro line' member
      rcases List.mem_cons.mp member with rfl | later
      · exact eq_false_of_ne_true other
      · exact ih closed.of_cons splits line' later

theorem splitAtFirst?_of_closed {property : Line → Bool} {before after : List Line} {found : Line}
    (closed : Closed (before ++ found :: after)) (none : ∀ line ∈ before, property line = false)
    (holds : property found = true) :
    splitAtFirst? property (before ++ found :: after) = some (before, found, after) := by
  induction before with
  | nil => rw [List.nil_append, splitAtFirst?, if_pos holds]
  | cons line before ih =>
      have open' : line.isFunctionEnd = false := by
        apply eq_false_of_ne_true
        intro ends
        simpa using Closed.eq_nil closed ends
      rw [List.cons_append, splitAtFirst?_of_neg (none line (List.mem_cons_self ..)) open',
        ih closed.of_cons fun line' member => none line' (List.mem_cons_of_mem _ member)]
      rfl

theorem Closed.of_splitAtFirst? {property : Line → Bool} {lines before after : List Line}
    {found : Line} (closed : Closed lines)
    (first : splitAtFirst? property lines = some (before, found, after)) : Closed after := by
  rw [(eq_of_splitAtFirst? first).1] at closed
  exact closed.of_append.of_cons

theorem content_expandLeaves (position : Nat) (lines : List Line) :
    (expandLeaves position lines).map (·.content) = lines.flatMap fun line =>
      if line.isLeave then ["\tmovq %rbp, %rsp", "\tpopq %rbp"] else [line.content] := by
  fun_induction expandLeaves position lines with
  | case1 => rfl
  | case2 position line rest leave ih => simp [leave, ih, Line.withContent]
  | case3 position line rest leave ih => simp [leave, ih]

/-! ## Stretches -/

/-- Lines cut behind every return: the lines in front of each return with the return, and the lines
    behind the last one. -/
def stretches : List Line → List (List Line × Line) × List Line
  | [] => ([], [])
  | line :: rest =>
    if line.isReturn then (([], line) :: (stretches rest).1, (stretches rest).2)
    else match (stretches rest).1 with
      | [] => ([], line :: (stretches rest).2)
      | (inside, ret) :: later => ((line :: inside, ret) :: later, (stretches rest).2)

theorem stretches_of_returnless {lines : List Line}
    (returnless : ∀ line ∈ lines, line.isReturn = false) : stretches lines = ([], lines) := by
  induction lines with
  | nil => rfl
  | cons line rest ih =>
      have other := returnless line (List.mem_cons_self ..)
      rw [stretches, ih fun line' member => returnless line' (List.mem_cons_of_mem _ member)]
      simp [other]

theorem stretches_append {inside : List Line}
    (returnless : ∀ line ∈ inside, line.isReturn = false) {ret : Line} (returns : ret.isReturn = true)
    (rest : List Line) : stretches (inside ++ ret :: rest) =
      ((inside, ret) :: (stretches rest).1, (stretches rest).2) := by
  induction inside with
  | nil => rw [List.nil_append, stretches, if_pos returns]
  | cons line inside ih =>
      have other := returnless line (List.mem_cons_self ..)
      rw [List.cons_append, stretches,
        ih fun line' member => returnless line' (List.mem_cons_of_mem _ member)]
      simp [other]

theorem stretches_of_splitAtFirst? {lines inside rest : List Line} {ret : Line}
    (first : splitAtFirst? Line.isReturn lines = some (inside, ret, rest)) :
    stretches lines = ((inside, ret) :: (stretches rest).1, (stretches rest).2) := by
  obtain ⟨whole, returns⟩ := eq_of_splitAtFirst? first
  rw [whole]
  exact stretches_append (not_of_splitAtFirst? first) returns rest

theorem flatMap_stretches (lines : List Line) :
    ((stretches lines).1.flatMap fun stretch => stretch.1 ++ [stretch.2]) ++ (stretches lines).2 =
      lines := by
  induction lines with
  | nil => rfl
  | cons line rest ih =>
      rw [stretches]
      split
      · rw [List.flatMap_cons, List.nil_append, List.singleton_append, List.cons_append, ih]
      · split
        · rename_i none
          rw [none] at ih
          rw [List.flatMap_nil, List.nil_append]
          exact congrArg (line :: ·) ih
        · rename_i inside ret later some
          rw [some] at ih
          exact congrArg (line :: ·) ih

/-- A stretch with one release, in front of its last frame pop. -/
def Released (amount : Nat) (stretch : List Line × Line) (piece : List Line) : Prop :=
  ∃ before pop after, stretch.1 = before ++ pop :: after ∧ pop.isFramePop = true ∧
    (∀ line ∈ after, line.isFramePop = false) ∧
    piece = before ++ pop.withContent (release amount) :: pop :: after ++ [stretch.2]

theorem not_of_splitAtLast? {property : Line → Bool} {lines before after : List Line} {found : Line}
    (split : splitAtLast? property lines = some (before, found, after)) :
    ∀ line ∈ after, property line = false := by
  fun_induction splitAtLast? property lines generalizing before with
  | case1 => contradiction
  | case2 line rest before' found' after' splits ih =>
      cases split
      exact ih splits
  | case3 line rest none _ =>
      cases split
      exact not_of_splitAtLast?_eq_none none
  | case4 => contradiction

theorem released_of_splitAtLast? {amount : Nat} {inside before after : List Line} {pop : Line}
    (last : splitAtLast? Line.isFramePop inside = some (before, pop, after)) (ret : Line) :
    Released amount (inside, ret)
      (before ++ pop.withContent (release amount) :: pop :: after ++ [ret]) := by
  obtain ⟨whole, popped⟩ := eq_of_splitAtLast? last
  exact ⟨before, pop, after, whole, popped, not_of_splitAtLast? last, rfl⟩

theorem released_of_patchReturns {function : String} {amount returns : Nat}
    {lines patched : List Line} (closed : Closed lines)
    (patches : patchReturns function amount lines = .ok (patched, returns)) :
    ∃ pieces, List.Forall₂ (Released amount) (stretches lines).1 pieces ∧
      patched = pieces.flatten ++ (stretches lines).2 ∧
      returns = (stretches lines).1.length := by
  fun_induction patchReturns function amount lines generalizing patched returns with
  | case1 lines none =>
      cases patches
      rw [stretches_of_returnless (not_of_splitAtFirst?_eq_none closed none)]
      exact ⟨[], .nil, rfl, rfl⟩
  | case2 => contradiction
  | case3 => contradiction
  | case4 lines inside ret rest first before pop after last patched' returns' patches' ih =>
      cases patches
      have behind := closed.of_splitAtFirst? first
      obtain ⟨pieces, released, written, count⟩ := ih behind patches'
      rw [stretches_of_splitAtFirst? first]
      refine ⟨_, .cons (released_of_splitAtLast? last ret) released, ?_, ?_⟩
      · rw [written, List.flatten_cons]
        simp only [List.append_assoc, List.cons_append, List.nil_append]
      · rw [count, List.length_cons]

/-! ## When padding succeeds -/

theorem isFramePop_of_head?_words {line : Line} {word : List Char}
    (first : line.words.head? = some word) (other : word ≠ "popq".toList) :
    line.isFramePop = false := by
  apply eq_false_of_ne_true
  intro popped
  obtain ⟨statement, pop, first'⟩ := Line.head?_words_of_isStatementWith popped
  rw [first, Option.some.injEq] at first'
  rw [Bool.and_eq_true, beq_iff_eq] at pop
  rw [first', pop.1] at other
  contradiction

theorem isFramePop_release (amount : Nat) (line : Line) :
    (line.withContent (release amount)).isFramePop = false :=
  have spelling : (line.withContent (release amount)).chars = _ := spelling_release amount
  isFramePop_of_head?_words (Line.head?_words_of_spelling spelling (by decide) (by decide))
    (by decide)

theorem isFramePop_growth (amount : Nat) (line : Line) :
    (line.withContent (growth amount)).isFramePop = false :=
  have spelling : (line.withContent (growth amount)).chars = _ := spelling_growth amount
  isFramePop_of_head?_words (Line.head?_words_of_spelling spelling (by decide) (by decide))
    (by decide)

theorem isFramePop_of_isStatementWith {property : Statement → Bool}
    (other : ∀ {statement}, property statement = true → statement.mnemonic ≠ "popq") {line : Line}
    (holds : line.isStatementWith property = true) : line.isFramePop = false := by
  obtain ⟨statement, kind, first⟩ := Line.head?_words_of_isStatementWith holds
  refine isFramePop_of_head?_words first ?_
  intro pop
  exact other kind (String.toList_injective pop)

theorem isFramePop_of_isFramePush {line : Line} (push : line.isFramePush = true) :
    line.isFramePop = false := by
  refine isFramePop_of_isStatementWith ?_ push
  intro statement pushes pop
  rw [pop] at pushes
  contradiction

theorem isFramePop_of_isReturn {line : Line} (returns : line.isReturn = true) :
    line.isFramePop = false := by
  refine isFramePop_of_isStatementWith ?_ returns
  intro statement ret pop
  rw [pop] at ret
  contradiction

variable {amount : Nat} {front rest : List Line}

theorem firstUnpatched?_append (popless : ∀ line ∈ front, line.isFramePop = false)
    (patched : ∀ previous, firstUnpatched? amount previous rest = none) (previous : Line) :
    firstUnpatched? amount previous (front ++ rest) = none := by
  induction front generalizing previous with
  | nil => exact patched previous
  | cons line front ih =>
      rw [List.cons_append, firstUnpatched?, popless line (List.mem_cons_self ..), Bool.false_and,
        if_neg Bool.false_ne_true]
      split
      · rfl
      · exact ih (fun line' member => popless line' (List.mem_cons_of_mem _ member)) line

theorem firstUnpatched?_release (pop : Line)
    (patched : ∀ previous, firstUnpatched? amount previous rest = none) (previous : Line) :
    firstUnpatched? amount previous (pop.withContent (release amount) :: pop :: rest) = none := by
  rw [firstUnpatched?, isFramePop_release, Bool.false_and, if_neg Bool.false_ne_true]
  split
  · rfl
  · rw [firstUnpatched?]
    split
    · rfl
    · simpa [Line.withContent] using patched pop

theorem not_of_countP_eq_one {property : Line → Bool} {before after : List Line} {found : Line}
    (single : (before ++ found :: after).countP property = 1) (holds : property found = true) :
    ∀ line ∈ before, property line = false := by
  rw [List.countP_append, List.countP_cons, if_pos holds] at single
  have empty : before.countP property = 0 := by omega
  rw [List.countP_eq_zero] at empty
  intro line member
  exact eq_false_of_ne_true (empty line member)

/-- Where every stretch has one frame pop, all returns can be patched, and no frame pop is left. -/
theorem patchReturns_of_single (function : String) (amount : Nat) {lines : List Line}
    (closed : Closed lines)
    (single : ∀ stretch ∈ (stretches lines).1, stretch.1.countP (·.isFramePop) = 1)
    (finished : ∀ line ∈ (stretches lines).2, line.isFramePop = false) :
    ∃ patched returns, patchReturns function amount lines = .ok (patched, returns) ∧
      ∀ previous, firstUnpatched? amount previous patched = none := by
  fun_induction patchReturns function amount lines with
  | case1 lines none =>
      rw [stretches_of_returnless (not_of_splitAtFirst?_eq_none closed none)] at finished
      refine ⟨lines, 0, rfl, ?_⟩
      intro previous
      have skipped : firstUnpatched? amount previous (lines ++ []) = .none :=
        firstUnpatched?_append finished (fun _ => rfl) previous
      rwa [List.append_nil] at skipped
  | case2 lines inside ret rest first none =>
      have popless := not_of_splitAtLast?_eq_none none
      have one := single (inside, ret) (by simp [stretches_of_splitAtFirst? first])
      rw [List.countP_eq_zero.mpr fun line member => by simp [popless line member]] at one
      contradiction
  | case3 lines inside ret rest first before pop after last reason fails ih =>
      rw [stretches_of_splitAtFirst? first] at single finished
      have behind := closed.of_splitAtFirst? first
      obtain ⟨patched, returns, patches, -⟩ :=
        ih behind (fun stretch member => single stretch (List.mem_cons_of_mem _ member)) finished
      rw [fails] at patches
      contradiction
  | case4 lines inside ret rest first before pop after last patched returns patches ih =>
      rw [stretches_of_splitAtFirst? first] at single finished
      have behind := closed.of_splitAtFirst? first
      obtain ⟨patched', returns', patches', clean⟩ :=
        ih behind (fun stretch member => single stretch (List.mem_cons_of_mem _ member)) finished
      rw [patches] at patches'
      cases patches'
      obtain ⟨whole, popped⟩ := eq_of_splitAtLast? last
      have one := single (inside, ret) (List.mem_cons_self ..)
      rw [whole] at one
      refine ⟨_, _, rfl, ?_⟩
      intro previous
      have returned : ∀ line ∈ after ++ [ret], line.isFramePop = false := by
        intro line member
        rcases List.mem_append.mp member with inner | last'
        · exact not_of_splitAtLast? last line inner
        · rw [List.mem_singleton.mp last']
          exact isFramePop_of_isReturn (eq_of_splitAtFirst? first).2
      have tail := firstUnpatched?_append returned clean
      have released := firstUnpatched?_release pop tail
      have skipped := firstUnpatched?_append (not_of_countP_eq_one one popped) released previous
      simpa using skipped

/-- Padding a function whose leaves are written out puts one growth behind the first frame push and
    one release in front of the last frame pop of every stretch behind it, and counts the returns. It
    does so where every such stretch has one frame pop, none comes behind the last return, and a
    function that is marked by directives is complete. -/
theorem pad_stretchwise {body : List Line} (closed : Closed body) (dialect : Dialect)
    (amount : Nat) :
    let expanded := expandLeaves 0 body
    expanded.map (·.content) = (body.flatMap fun line =>
      if line.isLeave then ["\tmovq %rbp, %rsp", "\tpopq %rbp"] else [line.content]) ∧
    (∀ padded, pad dialect amount body = .ok padded →
      ∃ before push rest pieces, expanded = before ++ push :: rest ∧
        (∀ line ∈ before, line.isFramePush = false) ∧ push.isFramePush = true ∧
        ((stretches rest).1.flatMap fun stretch => stretch.1 ++ [stretch.2]) ++ (stretches rest).2 =
          rest ∧
        List.Forall₂ (Released amount) (stretches rest).1 pieces ∧
        padded.lines = before ++ push :: push.withContent (growth amount) ::
          (pieces.flatten ++ (stretches rest).2) ∧
        padded.returns = (stretches rest).1.length) ∧
    (∀ before push rest, expanded = before ++ push :: rest →
      (∀ line ∈ before, line.isFramePush = false) → push.isFramePush = true →
      (∀ stretch ∈ (stretches rest).1, stretch.1.countP (·.isFramePop) = 1) →
      (∀ line ∈ (stretches rest).2, line.isFramePop = false) →
      (dialect = .gcc → body.getLast?.any (·.isFunctionEnd) = true) →
      ∃ padded, pad dialect amount body = .ok padded) := by
  intro expanded
  have closed' : Closed expanded := closed_expandLeaves closed 0
  refine ⟨content_expandLeaves 0 body, ?_, ?_⟩
  · intro padded pads
    obtain ⟨before, push, rest, patched, returns, prologue, patches, rfl⟩ := eq_of_pad pads
    obtain ⟨whole, pushed⟩ := eq_of_splitAtFirst? prologue
    have behind := closed'.of_splitAtFirst? prologue
    obtain ⟨pieces, released, written, count⟩ := released_of_patchReturns behind patches
    refine ⟨before, push, rest, pieces, whole, not_of_splitAtFirst? prologue, pushed,
      flatMap_stretches rest, released, ?_, count⟩
    rw [written]
  · intro before push rest whole pushless pushed single finished complete
    have prologue : splitAtFirst? Line.isFramePush expanded = some (before, push, rest) := by
      rw [whole] at closed' ⊢
      exact splitAtFirst?_of_closed closed' pushless pushed
    have behind := closed'.of_splitAtFirst? prologue
    obtain ⟨patched, returns, patches, clean⟩ :=
      patchReturns_of_single (functionName body) amount behind single finished
    refine ⟨⟨before ++ push :: push.withContent (growth amount) :: patched, returns⟩, ?_⟩
    have kept : (dialect == .gcc && !body.getLast?.any (·.isFunctionEnd)) = false := by
      cases dialect with
      | libfirm => rfl
      | gcc => rw [complete rfl]; rfl
    simp only [pad, kept, Bool.false_eq_true, ↓reduceIte,
      show expandLeaves 0 body = expanded from rfl, prologue, patches, clean]

/-- Two returns behind one frame push, one of them behind a leave. -/
theorem pad_stretchwise_with_leave :
    let body := Line.numbered 0 ["f:", "\tpushq\t%rbp", "\tje\t.L2", "\tpopq\t%rbp", "\tret",
      ".L2:", "\tleave", "\trep ret", "\t.cfi_endproc"]
    Closed body ∧ (∃ padded, pad .gcc 32 body = .ok padded) ∧
    (pad .gcc 32 body).map (fun padded => (padded.lines.map (·.content), padded.returns)) =
      .ok (["f:", "\tpushq\t%rbp", "\tsubq $32, %rsp", "\tje\t.L2", "\taddq $32, %rsp",
        "\tpopq\t%rbp", "\tret", ".L2:", "\tmovq %rbp, %rsp", "\taddq $32, %rsp", "\tpopq %rbp",
        "\trep ret", "\t.cfi_endproc"], 2) := by
  intro body
  have closed : Closed body := by
    unfold Closed
    decide +kernel
  have succeeds := (pad_stretchwise closed .gcc 32).2.2 [⟨"f:", 0⟩] ⟨"\tpushq\t%rbp", 1⟩
    [⟨"\tje\t.L2", 2⟩, ⟨"\tpopq\t%rbp", 3⟩, ⟨"\tret", 4⟩, ⟨".L2:", 5⟩, ⟨"\tmovq %rbp, %rsp", 6⟩,
      ⟨"\tpopq %rbp", 7⟩, ⟨"\trep ret", 7⟩, ⟨"\t.cfi_endproc", 8⟩]
    (by decide +kernel) (by decide +kernel) (by decide +kernel) (by decide +kernel)
    (by decide +kernel) (by decide +kernel)
  exact ⟨closed, succeeds, by decide +kernel⟩

end Frame

end AsmLayout
