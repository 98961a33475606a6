import AsmLayout.Proofs.Section.Allocation
import AsmLayout.Proofs.Section.Epilogue
import AsmLayout.Proofs.Section.Segment
import Mathlib.Algebra.Order.Group.Multiset
import Mathlib.Tactic.Abel

/-! # What edits do to the lines of a section as a bag

A shuffle keeps the bag of texts. Padded allocation calls add one adjustment for each call. Padded
frames exchange leaves for the two instructions that they stand for, and add growths and releases,
all by one amount. Nothing else comes or goes.
-/

namespace AsmLayout

/-- The texts of lines, in no order. -/
def bag (lines : List Line) : Multiset String :=
  (lines.map (·.content) : List String)

@[simp]
theorem bag_nil : bag [] = 0 := rfl

@[simp]
theorem bag_cons (line : Line) (rest : List Line) :
    bag (line :: rest) = {line.content} + bag rest := rfl

@[simp]
theorem bag_append (xs ys : List Line) : bag (xs ++ ys) = bag xs + bag ys := by
  rw [bag, List.map_append, ← Multiset.coe_add, bag, bag]

theorem bag_eq_of_perm {xs ys : List Line} (perm : xs.Perm ys) : bag xs = bag ys :=
  Multiset.coe_eq_coe.mpr (perm.map _)

@[simp]
theorem bag_renumber (start : Nat) (lines : List Line) :
    bag (Line.renumber start lines) = bag lines := by
  rw [bag, Line.content_renumber, bag]

theorem Section.SameText.bag {sec former : Section} (same : sec.SameText former) :
    bag sec.lines = AsmLayout.bag former.lines :=
  congrArg ((↑) : List String → Multiset String) same.contents

/-! ## Allocation calls -/

theorem Section.SameText.countP_isAllocationCall {sec former : Section}
    (same : sec.SameText former) :
    sec.lines.countP (·.isAllocationCall) = former.lines.countP (·.isAllocationCall) := by
  have textual : ∀ lines : List Line, lines.countP (·.isAllocationCall) =
      (lines.map (·.content)).countP fun content => Line.isAllocationCall ⟨content, 0⟩ := by
    intro lines
    rw [List.countP_map]
    apply List.countP_congr
    intro line _
    rw [← line.isAllocationCall_numberless 0]
    rfl
  rw [textual, textual former.lines]
  exact congrArg _ same.contents

/-- Lines in which every allocation call got an adjustment by an amount below a bound; none did
    where the bound is zero. -/
structure Adjusted (bound : Nat) (width : PointerWidth) (amounts : Multiset Nat)
    (before after : List Line) : Prop where
  calls : amounts.card = if bound = 0 then 0 else before.countP (·.isAllocationCall)
  below : ∀ amount ∈ amounts, amount < bound
  texts : bag after = bag before + amounts.map width.sizeAdjustment

theorem Adjusted.refl {bound : Nat} {width : PointerWidth} {lines : List Line}
    (callless : bound = 0 ∨ lines.countP (·.isAllocationCall) = 0) :
    Adjusted bound width 0 lines lines := by
  refine ⟨?_, fun _ absent => absurd absent (Multiset.notMem_zero _), (add_zero _).symm⟩
  rcases callless with off | none
  · rw [if_pos off, Multiset.card_zero]
  · rw [none, ite_self, Multiset.card_zero]

section

variable {G : Type} [Random.Generator G] {bound : Nat}

theorem padCalls_adjusted (positive : 0 < bound) (width : PointerWidth) (lines : List Line)
    (g : G) :
    Adjusted bound width ((padCalls ⟨0, bound⟩ width lines g).1.2.map (·.amount)) lines
      (padCalls ⟨0, bound⟩ width lines g).1.1 := by
  induction lines generalizing g with
  | nil => exact .refl (.inr rfl)
  | cons line rest ih =>
      obtain ⟨calls, below, texts⟩ := ih g
      rw [if_neg (Nat.ne_of_gt positive)] at calls
      rw [padCalls]
      dsimp only
      split
      · rename_i call
        have drawn := Random.inInterval_zero_lt positive (padCalls ⟨0, bound⟩ width rest g).2
        constructor
        · rw [if_neg (Nat.ne_of_gt positive), List.countP_cons_of_pos call, ← calls]
          rfl
        · intro amount member
          rcases List.mem_cons.mp member with rfl | later
          · exact drawn
          · exact below amount later
        · rw [bag_cons, bag_cons, bag_cons, texts, List.map_cons, ← Multiset.cons_coe,
            Multiset.map_cons, ← Multiset.singleton_add]
          dsimp only [Line.withContent]
          abel
      · rename_i other
        constructor
        · rw [if_neg (Nat.ne_of_gt positive), List.countP_cons_of_neg other, calls]
        · exact below
        · rw [bag_cons, bag_cons, texts, ← add_assoc]

theorem Section.padAllocations_adjusted (bound : Nat) (width : PointerWidth) (sec : Section)
    (g : G) :
    Adjusted bound width ((sec.padAllocations ⟨0, bound⟩ width g).1.2.map (·.amount)) sec.lines
      (sec.padAllocations ⟨0, bound⟩ width g).1.1.lines := by
  rw [padAllocations]
  split
  · rename_i callless
    apply Adjusted.refl
    simpa [Random.Interval.isEmpty, List.countP_eq_zero] using callless
  · rename_i called
    have positive : 0 < bound := by
      apply Nat.pos_of_ne_zero
      rintro rfl
      exact called rfl
    obtain ⟨calls, below, texts⟩ := padCalls_adjusted positive width sec.lines g
    exact ⟨calls, below, (bag_renumber ..).trans texts⟩

end

/-! ## Frames -/

/-- Whether a text is a leave, with or without the suffix. -/
def isLeaveText (content : String) : Bool :=
  Line.isLeave ⟨content, 0⟩

/-- What padding frames takes out of some lines and puts in. -/
structure Exchange where
  /-- The texts of the leaves that are written out. -/
  leaves : Multiset String
  /-- How many frames grow. -/
  growths : Nat
  /-- How many times they are released. -/
  releases : Nat

namespace Exchange

instance : Zero Exchange := ⟨⟨0, 0, 0⟩⟩

instance : Add Exchange :=
  ⟨fun d e => ⟨d.leaves + e.leaves, d.growths + e.growths, d.releases + e.releases⟩⟩

/-- The texts that padding by an amount puts in. -/
def gains (amount : Nat) (e : Exchange) : Multiset String :=
  .replicate e.leaves.card "\tmovq %rbp, %rsp" + .replicate e.leaves.card "\tpopq %rbp" +
    .replicate e.growths (Frame.growth amount) + .replicate e.releases (Frame.release amount)

theorem gains_add (amount : Nat) (d e : Exchange) :
    (d + e).gains amount = d.gains amount + e.gains amount := by
  change gains amount ⟨d.leaves + e.leaves, d.growths + e.growths, d.releases + e.releases⟩ = _
  simp only [gains, Multiset.card_add, Multiset.replicate_add]
  abel

/-- Lines that differ by an exchange, in which only leaves are given away. -/
structure Balances (amount : Nat) (e : Exchange) (before after : List Line) : Prop where
  present : e.leaves ≤ bag before
  leaves : ∀ content ∈ e.leaves, isLeaveText content = true
  texts : bag after + e.leaves = bag before + e.gains amount

namespace Balances

variable {amount : Nat} {d e : Exchange} {xs xs' ys ys' : List Line}

theorem refl (lines : List Line) : Balances amount 0 lines lines :=
  ⟨Multiset.zero_le _, fun _ absent => absurd absent (Multiset.notMem_zero _), rfl⟩

theorem append (left : d.Balances amount xs xs') (right : e.Balances amount ys ys') :
    (d + e).Balances amount (xs ++ ys) (xs' ++ ys') where
  present := by
    rw [bag_append]
    exact add_le_add left.present right.present
  leaves content member :=
    (Multiset.mem_add.mp member).elim (left.leaves content) (right.leaves content)
  texts := calc
    bag (xs' ++ ys') + (d.leaves + e.leaves)
      = (bag xs' + d.leaves) + (bag ys' + e.leaves) := by rw [bag_append]; abel
    _ = (bag xs + d.gains amount) + (bag ys + e.gains amount) := by rw [left.texts, right.texts]
    _ = bag (xs ++ ys) + (d + e).gains amount := by rw [bag_append, gains_add]; abel

theorem cons (line : Line) (rest : e.Balances amount xs xs') :
    e.Balances amount (line :: xs) (line :: xs') where
  present := rest.present.trans (bag_cons line xs ▸ Multiset.le_add_left ..)
  leaves := rest.leaves
  texts := by rw [bag_cons, bag_cons, add_assoc, rest.texts, add_assoc]

theorem of_sameText {edited sec : Section} (balances : e.Balances amount xs edited.lines)
    (same : sec.SameText edited) : e.Balances amount xs sec.lines :=
  ⟨balances.present, balances.leaves, same.bag ▸ balances.texts⟩

theorem flatMap {α : Type} {exchange : α → Exchange} {before after : α → List Line}
    (each : ∀ part, (exchange part).Balances amount (before part) (after part)) (parts : List α) :
    ((parts.map exchange).sum).Balances amount (parts.flatMap before) (parts.flatMap after) := by
  induction parts with
  | nil => exact .refl []
  | cons part rest ih => exact (each part).append ih

end Balances

end Exchange

namespace Frame

def leavesOf (lines : List Line) : Multiset String :=
  bag (lines.filter (·.isLeave))

theorem expandLeaves_balances (amount position : Nat) (lines : List Line) :
    Exchange.Balances amount ⟨leavesOf lines, 0, 0⟩ lines (expandLeaves position lines) := by
  fun_induction expandLeaves position lines with
  | case1 => exact .refl []
  | case2 position line rest leave ih =>
      have written : Exchange.Balances amount ⟨{line.content}, 0, 0⟩ [line]
          [line.withContent "\tmovq %rbp, %rsp", ⟨"\tpopq %rbp", position + 1⟩] := by
        refine ⟨le_rfl, ?_, ?_⟩
        · intro content member
          rw [Multiset.mem_singleton.mp member]
          exact leave
        · simp only [bag_cons, bag_nil, Line.withContent, Exchange.gains, Multiset.card_singleton,
            Multiset.replicate_one, Multiset.replicate_zero]
          abel
      have leaves : leavesOf (line :: rest) = {line.content} + leavesOf rest := by
        rw [leavesOf, List.filter_cons_of_pos leave, bag_cons, leavesOf]
      rw [leaves]
      exact written.append ih
  | case3 position line rest other ih =>
      have leaves : leavesOf (line :: rest) = leavesOf rest := by
        rw [leavesOf, List.filter_cons_of_neg other, leavesOf]
      rw [leaves]
      exact ih.cons line

theorem bag_patchReturns {function : String} {amount returns : Nat} {lines patched : List Line}
    (patches : patchReturns function amount lines = .ok (patched, returns)) :
    bag patched = bag lines + .replicate returns (release amount) := by
  fun_induction patchReturns function amount lines generalizing patched returns with
  | case1 lines =>
      cases patches
      exact (add_zero _).symm
  | case2 => contradiction
  | case3 => contradiction
  | case4 lines stretch ret rest first before pop after last patched' returns' patches' ih =>
      cases patches
      obtain ⟨whole, -⟩ := eq_of_splitAtFirst? first
      obtain ⟨stretched, -⟩ := eq_of_splitAtLast? last
      rw [whole, stretched, Multiset.replicate_succ, ← Multiset.singleton_add]
      simp only [bag_append, bag_cons, ih patches', Line.withContent]
      abel

/-- A function that is padded has all its leaves written out; its frame grows once and is released
    before every return. -/
theorem pad_balances {dialect : Dialect} {amount : Nat} {body : List Line} {padded : Padded}
    (pads : pad dialect amount body = .ok padded) :
    Exchange.Balances amount ⟨leavesOf body, 1, padded.returns⟩ body padded.lines := by
  obtain ⟨before, push, rest, patched, returns, prologue, patches, rfl⟩ := eq_of_pad pads
  obtain ⟨expanded, -⟩ := eq_of_splitAtFirst? prologue
  obtain ⟨present, leaves, texts⟩ := expandLeaves_balances amount 0 body
  refine ⟨present, leaves, ?_⟩
  -- The growth and the releases come on top of what the leaves are written out to.
  have gains : Exchange.gains amount ⟨leavesOf body, 1, returns⟩ =
      Exchange.gains amount ⟨leavesOf body, 0, 0⟩ +
        ({growth amount} + .replicate returns (release amount)) := by
    simp only [Exchange.gains, Multiset.replicate_zero, Multiset.replicate_one]
    abel
  calc
    bag (before ++ push :: push.withContent (growth amount) :: patched) + leavesOf body
      = (bag (expandLeaves 0 body) + leavesOf body) +
          ({growth amount} + .replicate returns (release amount)) := by
        rw [expanded]
        simp only [bag_append, bag_cons, bag_patchReturns patches, Line.withContent]
        abel
    _ = bag body + Exchange.gains amount ⟨leavesOf body, 1, returns⟩ := by
        rw [texts, gains, add_assoc]

end Frame

/-- What padding exchanges in a part; a function that is skipped exchanges nothing. -/
def FramePart.exchange (dialect : Dialect) (amount : Nat) : FramePart → Exchange
  | outside _ => 0
  | orphan _ => 0
  | function body =>
    match Frame.pad dialect amount body with
    | .ok padded => ⟨Frame.leavesOf body, 1, padded.returns⟩
    | .error _ => 0

theorem FramePart.pad_balances (dialect : Dialect) (amount : Nat) (part : FramePart) :
    (part.exchange dialect amount).Balances amount part.lines (part.pad dialect amount).1 := by
  cases part with
  | outside line => exact .refl [line]
  | orphan line => exact .refl [line]
  | function body =>
      cases pads : Frame.pad dialect amount body with
      | ok padded =>
          rw [exchange, FramePart.pad, pads]
          exact Frame.pad_balances pads
      | error reason =>
          rw [exchange, FramePart.pad, pads]
          exact .refl body

def Section.frameExchange (amount : Nat) (sec : Section) : Exchange :=
  ((FramePart.cut sec.lines).map (FramePart.exchange sec.dialect (alignDown amount))).sum

theorem Section.padFrames_balances (amount : Nat) (sec : Section) :
    (sec.frameExchange amount).Balances (alignDown amount) sec.lines
      (sec.padFrames amount).1.lines := by
  obtain ⟨present, leaves, texts⟩ := Exchange.Balances.flatMap
    (FramePart.pad_balances sec.dialect (alignDown amount)) (FramePart.cut sec.lines)
  rw [FramePart.flatMap_cut] at present texts
  refine ⟨present, leaves, ?_⟩
  rw [padFrames, edit, bag_renumber, List.flatMap_map]
  exact texts

theorem dvd_alignDown (amount : Nat) : stackAlignment ∣ alignDown amount :=
  Nat.dvd_sub_mod amount

theorem alignDown_le (amount : Nat) : alignDown amount ≤ amount :=
  Nat.sub_le ..

/-- A section in which padding exchanged leaves and frame instructions by one amount below a bound;
    nothing was exchanged where the bound is zero. -/
structure Framed (bound frame : Nat) (exchange : Exchange) (before after : Section) : Prop where
  aligned : stackAlignment ∣ frame
  below : frame < max 1 bound
  off : bound = 0 → exchange = 0
  balances : exchange.Balances frame before.lines after.lines

namespace Framed

variable {bound frame : Nat} {exchange : Exchange} {before after sec : Section}

theorem refl (sec : Section) : Framed bound 0 0 sec sec where
  aligned := Nat.dvd_zero _
  below := Nat.lt_of_lt_of_le Nat.zero_lt_one (Nat.le_max_left ..)
  off _ := rfl
  balances := .refl sec.lines

theorem of_sameText (framed : Framed bound frame exchange before after)
    (same : sec.SameText after) : Framed bound frame exchange before sec :=
  ⟨framed.aligned, framed.below, framed.off, framed.balances.of_sameText same⟩

end Framed

/-! ## Both paddings -/

theorem isLeave_sizeAdjustment (width : PointerWidth) (amount number : Nat) :
    (⟨width.sizeAdjustment amount, number⟩ : Line).isLeave = false := by
  apply eq_false_of_ne_true
  intro leave
  obtain ⟨-, word⟩ := Line.head?_words_of_isLeave leave
  rcases head?_words_sizeAdjustment width amount number with first | first
  · rw [first] at word
    exact absurd word (by decide)
  · rw [first] at word
    exact absurd word (by decide)

theorem Exchange.Balances.after_adjusted {bound amount : Nat} {width : PointerWidth}
    {amounts : Multiset Nat} {exchange : Exchange} {before middle after : List Line}
    (adjusted : Adjusted bound width amounts before middle)
    (balances : exchange.Balances amount middle after) :
    exchange.leaves ≤ bag before ∧
      bag after = bag before - exchange.leaves + exchange.gains amount +
        amounts.map width.sizeAdjustment := by
  have none : (amounts.map width.sizeAdjustment).filter (isLeaveText ·) = 0 := by
    rw [Multiset.filter_eq_nil]
    intro content member
    obtain ⟨added, -, rfl⟩ := Multiset.mem_map.mp member
    exact ne_true_of_eq_false (isLeave_sizeAdjustment width added 0)
  -- No adjustment is a leave, so the leaves that go were there before the adjustments came.
  have present : exchange.leaves ≤ bag before := calc
    exchange.leaves = exchange.leaves.filter (isLeaveText ·) :=
      (Multiset.filter_eq_self.mpr balances.leaves).symm
    _ ≤ (bag before + amounts.map width.sizeAdjustment).filter (isLeaveText ·) := by
      rw [← adjusted.texts]
      exact Multiset.filter_le_filter _ balances.present
    _ = (bag before).filter (isLeaveText ·) := by rw [Multiset.filter_add, none, add_zero]
    _ ≤ bag before := Multiset.filter_le ..
  have restored : bag before - exchange.leaves + exchange.leaves = bag before :=
    Multiset.sub_add_cancel present
  generalize bag before - exchange.leaves = kept at restored ⊢
  refine ⟨present, add_right_cancel (b := exchange.leaves) ?_⟩
  calc
    bag after + exchange.leaves
      = bag before + amounts.map width.sizeAdjustment + exchange.gains amount := by
        rw [balances.texts, adjusted.texts]
    _ = kept + exchange.gains amount + amounts.map width.sizeAdjustment + exchange.leaves := by
        rw [← restored]
        abel

/-! ## Shuffled segments -/

theorem bag_flatMap {α β : Type} {f : α → List Line} {g : β → List Line} {parts : List α}
    {edited : List β}
    (each : List.Forall₂ (fun part part' => bag (g part') = bag (f part)) parts edited) :
    bag (edited.flatMap g) = bag (parts.flatMap f) := by
  induction each with
  | nil => rfl
  | cons first _ ih => rw [List.flatMap_cons, List.flatMap_cons, bag_append, bag_append, first, ih]

theorem SegmentPart.bag_shuffle {G : Type} [Random.Generator G] (part : SegmentPart) (g : G) :
    bag (part.shuffle g).1.1.lines = bag part.lines := by
  cases part with
  | outside line => rfl
  | extent opening inside =>
      rw [shuffle]
      dsimp only
      split
      · rfl
      · exact bag_eq_of_perm ((shuffle_objects_perm inside g).cons opening)

theorem Section.bag_shuffleSegment {G : Type} [Random.Generator G] (segment : DataSegment)
    (sec : Section) (g : G) : bag (sec.shuffleSegment segment g).1.1.lines = bag sec.lines := by
  have each : List.Forall₂ (fun part edited => bag edited.1.lines = bag part.lines)
      (SegmentPart.cut segment sec.lines)
      (Random.traverse SegmentPart.shuffle (SegmentPart.cut segment sec.lines) g).1 :=
    Random.traverse_forall₂ SegmentPart.bag_shuffle _ g
  have same := bag_flatMap each
  rw [SegmentPart.flatMap_cut] at same
  exact (bag_renumber ..).trans same

end AsmLayout
