import AsmLayout.Random.Generator

/-! # Edits of a buffer by positions

An edit in place goes by positions that were computed earlier, in a buffer that has changed since.
Here each of them is checked where it is used, a draw asks for a range that is not empty, and a loop
has a number of rounds in which it has to come to its end. Whatever goes astray is a fault.
-/

namespace AsmLayout.Checked

/-- What stops an edit short. -/
inductive Fault where
  /-- A position behind the last element. -/
  | position
  /-- A slice that ends before it starts, or behind the last element. -/
  | slice
  /-- A position in front of the first element. -/
  | underflow
  /-- A draw from an empty range. -/
  | emptyRange
  /-- A section that is taken out twice or not put back. -/
  | lost
  /-- A loop that goes on after its last round. -/
  | endless
  deriving Repr, DecidableEq

section

variable {α : Type}

def get (xs : List α) (position : Nat) : Except Fault α :=
  match xs[position]? with
  | some x => .ok x
  | none => .error .position

def set (xs : List α) (position : Nat) (x : α) : Except Fault (List α) :=
  if position < xs.length then .ok (xs.set position x) else .error .position

/-- The elements from one position up to another. -/
def slice (xs : List α) (start stop : Nat) : Except Fault (List α) :=
  if start ≤ stop ∧ stop ≤ xs.length then .ok ((xs.drop start).take (stop - start))
  else .error .slice

/-- Put other elements in the place of those from one position up to another. -/
def splice (xs : List α) (start stop : Nat) (new : List α) : Except Fault (List α) :=
  if start ≤ stop ∧ stop ≤ xs.length then .ok (xs.take start ++ new ++ xs.drop stop)
  else .error .slice

def insertBefore (xs : List α) (position : Nat) (x : α) : Except Fault (List α) :=
  if position < xs.length then .ok (xs.take position ++ x :: xs.drop position)
  else .error .position

def insertAfter (xs : List α) (position : Nat) (x : α) : Except Fault (List α) :=
  if position < xs.length then .ok (xs.take (position + 1) ++ x :: xs.drop (position + 1))
  else .error .position

def subtract (position distance : Nat) : Except Fault Nat :=
  if distance ≤ position then .ok (position - distance) else .error .underflow

def draw {G : Type} [Random.Generator G] (range : Random.Interval) (g : G) :
    Except Fault (Nat × G) :=
  if range.isEmpty then .error .emptyRange else .ok (Random.inInterval range g)

/-- Repeat a step, which gives the next state or the result. -/
def loop {σ β : Type} (step : σ → Except Fault (σ ⊕ β)) : (rounds : Nat) → σ → Except Fault β
  | 0, _ => .error .endless
  | rounds + 1, state =>
    match step state with
    | .error fault => .error fault
    | .ok (.inl next) => loop step rounds next
    | .ok (.inr result) => .ok result

theorem get_succ (x : α) (xs : List α) (position : Nat) :
    get (x :: xs) (position + 1) = get xs position := by
  rw [get, get, List.getElem?_cons_succ]

theorem insertBefore_succ (x : α) (xs : List α) (position : Nat) (new : α) :
    insertBefore (x :: xs) (position + 1) new = (insertBefore xs position new).map (x :: ·) := by
  simp only [insertBefore, List.length_cons, Nat.add_lt_add_iff_right, List.take_succ_cons,
    List.drop_succ_cons]
  split <;> rfl

theorem get_append (front : List α) (x : α) (back : List α) :
    get (front ++ x :: back) front.length = .ok x := by
  simp only [get, List.getElem?_append_right (Nat.le_refl _), Nat.sub_self, List.getElem?_cons_zero]

theorem set_append (front : List α) (x new : α) (back : List α) :
    set (front ++ x :: back) front.length new = .ok (front ++ new :: back) := by
  rw [set, if_pos (by simp), List.set_append_right _ _ (Nat.le_refl _), Nat.sub_self,
    List.set_cons_zero]

theorem slice_append (front inside back : List α) :
    slice (front ++ (inside ++ back)) front.length (front.length + inside.length) = .ok inside := by
  rw [slice, if_pos (by simp), List.drop_left, Nat.add_sub_cancel_left, List.take_left]

example : slice [0, 1, 2] 3 2 = .error .slice := rfl

theorem splice_append (front inside back new : List α) :
    splice (front ++ (inside ++ back)) front.length (front.length + inside.length) new =
      .ok (front ++ (new ++ back)) := by
  rw [splice, if_pos (by simp), List.take_left, ← List.drop_drop, List.drop_left,
    List.drop_left, List.append_assoc]

theorem insertBefore_append (front : List α) (x new : α) (back : List α) :
    insertBefore (front ++ x :: back) front.length new = .ok (front ++ new :: x :: back) := by
  rw [insertBefore, if_pos (by simp), List.take_left, List.drop_left]

theorem insertAfter_append (front : List α) (x new : α) (back : List α) :
    insertAfter (front ++ x :: back) front.length new = .ok (front ++ x :: new :: back) := by
  have reach : front.length + 1 = (front ++ [x]).length := by simp
  rw [insertAfter, if_pos (by simp), List.append_cons front x back, reach, List.take_left,
    List.drop_left, List.append_assoc, List.singleton_append]

theorem subtract_of_le {position distance : Nat} (le : distance ≤ position) :
    subtract position distance = .ok (position - distance) :=
  if_pos le

theorem draw_of_filled {G : Type} [Random.Generator G] {range : Random.Interval}
    (filled : range.isEmpty = false) (g : G) : draw range g = .ok (Random.inInterval range g) := by
  rw [draw, if_neg (by simp [filled])]

theorem loop_congr {σ β : Type} {step : σ → Except Fault (σ ⊕ β)} {state other : σ}
    (same : step state = step other) (rounds : Nat) :
    loop step rounds state = loop step rounds other := by
  cases rounds with
  | zero => rfl
  | succ rounds => rw [loop, loop, same]

theorem loop_of_next {σ β : Type} {step : σ → Except Fault (σ ⊕ β)} {state next : σ}
    (goes : step state = .ok (.inl next)) {rounds : Nat} (left : 0 < rounds) :
    loop step rounds state = loop step (rounds - 1) next := by
  obtain ⟨rounds, rfl⟩ := Nat.exists_eq_add_one_of_ne_zero (Nat.ne_of_gt left)
  rw [loop, goes, Nat.add_sub_cancel]

theorem loop_of_result {σ β : Type} {step : σ → Except Fault (σ ⊕ β)} {state : σ} {result : β}
    (ends : step state = .ok (.inr result)) {rounds : Nat} (left : 0 < rounds) :
    loop step rounds state = .ok result := by
  obtain ⟨rounds, rfl⟩ := Nat.exists_eq_add_one_of_ne_zero (Nat.ne_of_gt left)
  rw [loop, ends]

end

end AsmLayout.Checked
