import AsmLayout.Proofs.Section.Frame

/-! # Returns that no frame pop precedes

Padding gives a function up at the first return without a frame pop between it and the frame push or
the return before it. Leaves count as frame pops, and what they are written out to is no return, so
that return is a line of the function as it was, under the number that it had.
-/

namespace AsmLayout

namespace Line

theorem isReturn_numberless (line : Line) (number : Nat) :
    { line with number }.isReturn = line.isReturn :=
  isStatementWith_numberless (fun _ _ => rfl) line number

theorem isFramePush_numberless (line : Line) (number : Nat) :
    { line with number }.isFramePush = line.isFramePush :=
  isStatementWith_numberless (fun _ _ => rfl) line number

theorem isFramePop_numberless (line : Line) (number : Nat) :
    { line with number }.isFramePop = line.isFramePop :=
  isStatementWith_numberless (fun _ _ => rfl) line number

/-- Where padding looks for the next frame pop from: behind the frame push, then behind returns. -/
def isPatchPoint (line : Line) : Bool :=
  line.isFramePush || line.isReturn

theorem isPatchPoint_restore (number : Nat) :
    isPatchPoint ⟨"\tmovq %rbp, %rsp", number⟩ = false := by
  have zero : isPatchPoint ⟨"\tmovq %rbp, %rsp", 0⟩ = false := by decide +kernel
  rw [isPatchPoint] at zero ⊢
  rwa [← isFramePush_numberless _ number, ← isReturn_numberless _ number] at zero

theorem isPatchPoint_pop (number : Nat) : isPatchPoint ⟨"\tpopq %rbp", number⟩ = false := by
  have zero : isPatchPoint ⟨"\tpopq %rbp", 0⟩ = false := by decide +kernel
  rw [isPatchPoint] at zero ⊢
  rwa [← isFramePush_numberless _ number, ← isReturn_numberless _ number] at zero

theorem isFramePop_pop (number : Nat) : isFramePop ⟨"\tpopq %rbp", number⟩ = true := by
  have zero : isFramePop ⟨"\tpopq %rbp", 0⟩ = true := by decide +kernel
  rwa [← isFramePop_numberless _ number] at zero

end Line

namespace Frame

theorem not_of_splitAtFirst? {property : Line → Bool} {lines before after : List Line}
    {found : Line} (split : splitAtFirst? property lines = some (before, found, after)) :
    ∀ line ∈ before, property line = false := by
  fun_induction splitAtFirst? property lines generalizing before with
  | case1 => contradiction
  | case2 =>
      cases split
      simp
  | case3 => contradiction
  | case4 line rest other _ before' found' after' splits ih =>
      cases split
      intro line' member
      rcases List.mem_cons.mp member with rfl | later
      · exact eq_false_of_ne_true other
      · exact ih splits line' later
  | case5 => contradiction

theorem not_of_splitAtLast?_eq_none {property : Line → Bool} {lines : List Line}
    (none : splitAtLast? property lines = none) : ∀ line ∈ lines, property line = false := by
  fun_induction splitAtLast? property lines with
  | case1 => simp
  | case2 => contradiction
  | case3 => contradiction
  | case4 line rest splits other ih =>
      intro line' member
      rcases List.mem_cons.mp member with rfl | later
      · exact eq_false_of_ne_true other
      · exact ih splits line' later

theorem split_of_expandLeaves {position : Nat} {lines before after : List Line} {kept : Line}
    (point : kept.isPatchPoint = true)
    (split : expandLeaves position lines = before ++ kept :: after) :
    ∃ before' after' position', lines = before' ++ kept :: after' ∧
      expandLeaves position before' = before ∧ expandLeaves position' after' = after := by
  fun_induction expandLeaves position lines generalizing before with
  | case1 => simp at split
  -- Neither line that a leave is written out to is a patch point.
  | case2 position line rest leave ih =>
      cases before with
      | nil =>
          injection split with restore _
          rw [← restore, Line.withContent, Line.isPatchPoint_restore] at point
          contradiction
      | cons first before =>
          cases before with
          | nil =>
              injection split with _ split
              injection split with pop _
              rw [← pop, Line.isPatchPoint_pop] at point
              contradiction
          | cons second before =>
              injection split with restore split
              injection split with pop split
              obtain ⟨before', after', position', whole, front, back⟩ := ih split
              refine ⟨line :: before', after', position', ?_, ?_, back⟩
              · rw [whole, List.cons_append]
              · rw [expandLeaves, if_pos leave, front, restore, pop]
  | case3 position line rest leave ih =>
      cases before with
      | nil =>
          injection split with same split
          exact ⟨[], rest, position + 1, by rw [same, List.nil_append], rfl, split⟩
      | cons first before =>
          injection split with same split
          obtain ⟨before', after', position', whole, front, back⟩ := ih split
          refine ⟨line :: before', after', position', ?_, ?_, back⟩
          · rw [whole, List.cons_append]
          · rw [expandLeaves, if_neg leave, front, same]

theorem expandLeaves_without_pop {position : Nat} {lines : List Line}
    (unreleased : ∀ line ∈ expandLeaves position lines,
      line.isReturn = false ∧ line.isFramePop = false) :
    ∀ line ∈ lines, line.isReturn = false ∧ line.isFramePop = false ∧ line.isLeave = false := by
  fun_induction expandLeaves position lines with
  | case1 => simp
  | case2 position line rest leave ih =>
      have popped := (unreleased ⟨"\tpopq %rbp", position + 1⟩ (by simp)).2
      rw [Line.isFramePop_pop] at popped
      contradiction
  | case3 position line rest leave ih =>
      intro line' member
      rcases List.mem_cons.mp member with rfl | later
      · obtain ⟨silent, unpopped⟩ := unreleased line' (List.mem_cons_self ..)
        exact ⟨silent, unpopped, eq_false_of_ne_true leave⟩
      · exact ih (fun other inner => unreleased other (List.mem_cons_of_mem _ inner)) line' later

/-- A return of a function is not released when neither a frame pop nor a leave stands between it
    and the patch point in front. -/
structure Unreleased (body : List Line) (point ret : Nat) : Prop where
  behind : point < ret
  patched : body[point]?.any Line.isPatchPoint = true
  returns : body[ret]?.any Line.isReturn = true
  between : ∀ position line, point < position → position < ret → body[position]? = some line →
    line.isReturn = false ∧ line.isFramePop = false ∧ line.isLeave = false

theorem getElem?_behind_stretch {body front stretch back : List Line} {point ret : Line}
    (whole : body = front ++ point :: (stretch ++ ret :: back)) :
    body[front.length + 1 + stretch.length]? = some ret := by
  have split : body = (front ++ [point] ++ stretch) ++ ret :: back := by
    rw [whole, List.append_assoc, List.append_assoc, List.singleton_append]
  have length : (front ++ [point] ++ stretch).length = front.length + 1 + stretch.length := by
    rw [List.length_append, List.length_append, List.length_singleton]
  rw [split, ← length, List.getElem?_append_right (Nat.le_refl _), Nat.sub_self,
    List.getElem?_cons_zero]

theorem unreleased_of_eq {body front stretch back : List Line} {point ret : Line}
    (whole : body = front ++ point :: (stretch ++ ret :: back))
    (patched : point.isPatchPoint = true) (returns : ret.isReturn = true)
    (bare : ∀ line ∈ stretch,
      line.isReturn = false ∧ line.isFramePop = false ∧ line.isLeave = false) :
    Unreleased body front.length (front.length + 1 + stretch.length) where
  behind := by omega
  patched := by
    rw [whole, List.getElem?_append_right (Nat.le_refl _), Nat.sub_self]
    exact patched
  returns := by
    rw [getElem?_behind_stretch whole]
    exact returns
  between position line after before there := by
    obtain ⟨index, rfl⟩ := Nat.exists_eq_add_of_lt after
    rw [whole, List.getElem?_append_right (by omega), Nat.add_assoc, Nat.add_sub_cancel_left,
      List.getElem?_cons_succ, List.getElem?_append_left (by omega)] at there
    exact bare line (List.mem_of_getElem? there)

theorem eq_of_patchReturns {function : String} {amount : Nat} {lines : List Line}
    {reason : SkipReason} (fails : patchReturns function amount lines = .error reason)
    {anchor : Line} (patched : anchor.isPatchPoint = true) :
    ∃ front point stretch ret back, anchor :: lines = front ++ point :: (stretch ++ ret :: back) ∧
      point.isPatchPoint = true ∧ ret.isReturn = true ∧
      (∀ line ∈ stretch, line.isReturn = false ∧ line.isFramePop = false) ∧
      reason = .missingEpilogue function ret.number := by
  fun_induction patchReturns function amount lines generalizing anchor with
  | case1 => contradiction
  | case2 lines stretch ret rest first last =>
      cases fails
      obtain ⟨whole, returns⟩ := eq_of_splitAtFirst? first
      refine ⟨[], anchor, stretch, ret, rest, ?_, patched, returns, ?_, rfl⟩
      · rw [whole, List.nil_append]
      · intro line member
        exact ⟨not_of_splitAtFirst? first line member, not_of_splitAtLast?_eq_none last line member⟩
  | case3 lines stretch ret rest first before pop after last reason' fails' ih =>
      cases fails
      obtain ⟨whole, returns⟩ := eq_of_splitAtFirst? first
      have point : ret.isPatchPoint = true := by rw [Line.isPatchPoint, returns, Bool.or_true]
      obtain ⟨front, point, stretch', ret', back, whole', facts⟩ := ih fails' point
      refine ⟨anchor :: (stretch ++ front), point, stretch', ret', back, ?_, facts⟩
      rw [whole, whole', List.cons_append, List.append_assoc]
  | case4 => contradiction

/-- A function without a frame pop for a return has that return, under the number told. -/
theorem unreleased_of_pad {dialect : Dialect} {amount number : Nat} {body : List Line}
    {function : String} (fails : pad dialect amount body = .error (.missingEpilogue function number)) :
    function = functionName body ∧ ∃ point ret, Unreleased body point ret ∧
      body[ret]?.map (·.number) = some number := by
  simp only [pad] at fails
  split at fails
  · cases fails
  · split at fails
    · cases fails
    · rename_i before push rest prologue
      split at fails
      · rename_i reason patches
        cases fails
        obtain ⟨expanded, pushed⟩ := eq_of_splitAtFirst? prologue
        have anchored : push.isPatchPoint = true := by rw [Line.isPatchPoint, pushed, Bool.true_or]
        obtain ⟨front, point, stretch, ret, back, whole, patched, returns, bare, told⟩ :=
          eq_of_patchReturns patches anchored
        cases told
        rw [whole, ← List.append_assoc] at expanded
        obtain ⟨front', tail, position, body', -, later⟩ := split_of_expandLeaves patched expanded
        have returning : ret.isPatchPoint = true := by rw [Line.isPatchPoint, returns, Bool.or_true]
        obtain ⟨stretch', back', _, tail', opened, -⟩ := split_of_expandLeaves returning later
        rw [tail'] at body'
        rw [← opened] at bare
        refine ⟨rfl, _, _, unreleased_of_eq body' patched returns (expandLeaves_without_pop bare), ?_⟩
        rw [getElem?_behind_stretch body', Option.map_some]
      · split at fails <;> cases fails

end Frame

end AsmLayout
