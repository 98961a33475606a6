import AsmLayout.Proofs.Checked.Buffer
import AsmLayout.Proofs.Draws
import Mathlib.Data.Nat.Factorial.Basic

/-! # Shuffling by positions

A shuffle swaps every position with an earlier one, or with itself. The number drawn for several
swaps at once is below the product of their choices, so each part of it is a choice.
-/

namespace AsmLayout

namespace Random

/-- Choices below `size`, `size + 1` and so on. -/
inductive Inward : Nat → List Nat → Prop where
  | nil {size : Nat} : Inward size []
  | cons {size target : Nat} {targets : List Nat} (below : target < size)
      (rest : Inward (size + 1) targets) : Inward size (target :: targets)

theorem factorRun_eq {size product next count : Nat} (fuel : Nat)
    (times : product = size.ascFactorial count) (behind : next = size + count)
    (counted : 0 < count) :
    ∃ factors, 0 < factors ∧
      factorRun fuel product next count = (size.ascFactorial factors, factors) := by
  induction fuel generalizing product next count with
  | zero => exact ⟨count, counted, by rw [factorRun, times]⟩
  | succ fuel ih =>
      rw [factorRun]
      split
      · apply ih
        · rw [times, behind, Nat.ascFactorial_succ, Nat.mul_comm]
        · rw [behind, Nat.add_assoc]
        · exact Nat.succ_pos count
      · exact ⟨count, counted, by rw [times]⟩

variable {G : Type} [Generator G]

theorem below32_lt {range : Nat} (positive : 0 < range) (g : G) : (below32 range g).1 < range :=
  scaled_lt (fun g => (Generator.next32 g).1.toNat_lt) positive g

theorem inward_choices {count size chunk remaining : Nat} (positive : 0 < size)
    (fits : remaining = 0 ∨ chunk < size.ascFactorial remaining) (g : G) :
    Inward size (choices count size chunk remaining g).1 := by
  induction count generalizing size chunk remaining g with
  | zero => exact .nil
  | succ count ih =>
      have own : size.ascFactorial 1 = size := Nat.mul_one size
      rw [choices]
      dsimp only
      -- A new number is drawn where the previous one is used up.
      obtain ⟨part, left, later, drawn, rest, below⟩ : ∃ part left later,
          (if remaining = 0 then
            ((below32 (factorRun 32 size (size + 1) 1).1 g).1, (factorRun 32 size (size + 1) 1).2,
              (below32 (factorRun 32 size (size + 1) 1).1 g).2)
          else (chunk, remaining, g)) = (part, left, later) ∧
          0 < left ∧ part < size.ascFactorial left := by
        split
        next used =>
          obtain ⟨factors, counted, product⟩ := factorRun_eq 32 own.symm rfl Nat.one_pos
          have filled : 0 < size.ascFactorial factors :=
            Nat.lt_of_lt_of_le (Nat.pow_pos positive) (Nat.pow_succ_le_ascFactorial size factors)
          rw [product]
          exact ⟨_, _, _, rfl, counted, below32_lt filled g⟩
        next unused =>
          exact ⟨_, _, _, rfl, Nat.pos_of_ne_zero unused, fits.resolve_left unused⟩
      rw [drawn]
      dsimp only
      obtain ⟨left, rfl⟩ := Nat.exists_eq_add_one_of_ne_zero (Nat.ne_of_gt rest)
      split
      next single =>
        refine .cons ?_ (ih (Nat.succ_pos size) (.inl rfl) later)
        rwa [single, own] at below
      next many =>
        refine .cons (Nat.mod_lt part positive) (ih (Nat.succ_pos size) (.inr ?_) later)
        have split : size.ascFactorial (left + 1) = size * (size + 1).ascFactorial left := by
          rw [Nat.ascFactorial_succ, Nat.succ_ascFactorial]
        rw [Nat.add_sub_cancel]
        exact Nat.div_lt_of_lt_mul (split ▸ below)

theorem length_choices (count size chunk remaining : Nat) (g : G) :
    (choices count size chunk remaining g).1.length = count := by
  induction count generalizing size chunk remaining g with
  | zero => rfl
  | succ count ih =>
      rw [choices]
      dsimp only
      generalize (if remaining = 0 then _ else _ : Nat × Nat × G) = drawn
      split <;> rw [List.length_cons, ih]

theorem inward_swapTargets (n : Nat) (g : G) : Inward 1 (swapTargets n g).1 := by
  rw [swapTargets]
  split
  · exact .nil
  · exact inward_choices Nat.one_pos (.inr Nat.one_pos) g

theorem length_swapTargets_le (n : Nat) (g : G) : (swapTargets n g).1.length ≤ n := by
  rw [swapTargets]
  split
  · exact Nat.zero_le n
  · exact Nat.le_of_eq (length_choices n 1 0 1 g)

end Random

namespace Checked

variable {α : Type}

def swap (xs : List α) (first second : Nat) : Except Fault (List α) := do
  let x ← get xs first
  let y ← get xs second
  set (← set xs first y) second x

def applySwaps (position : Nat) (xs : List α) : List Nat → Except Fault (List α)
  | [] => .ok xs
  | target :: targets => do applySwaps (position + 1) (← swap xs position target) targets

def shuffle {G : Type} [Random.Generator G] (xs : List α) (g : G) : Except Fault (List α × G) := do
  let (targets, g) := Random.swapTargets xs.length g
  return (← applySwaps 0 xs targets, g)

theorem swap_eq (xs : Array α) {first second : Nat} (inside : first < xs.size)
    (inside' : second < xs.size) :
    swap xs.toList first second = .ok (xs.swapIfInBounds first second).toList := by
  rw [Array.swapIfInBounds_def, dif_pos inside, dif_pos inside', Array.swap_def]
  simp [swap, get, set, inside, inside', bind, Except.bind]

theorem applySwaps_eq {position : Nat} {targets : List Nat} (xs : Array α)
    (inward : Random.Inward (position + 1) targets)
    (enough : position + targets.length ≤ xs.size) :
    applySwaps position xs.toList targets =
      .ok (Random.applySwaps position xs targets).toList := by
  induction targets generalizing position xs with
  | nil => rfl
  | cons target targets ih =>
      cases inward with
      | cons below rest =>
          rw [List.length_cons] at enough
          have swapped := @swap_eq _ xs position target (by omega) (by omega)
          rw [applySwaps, swapped, Random.applySwaps]
          exact ih _ rest (by rw [Array.size_swapIfInBounds]; omega)

theorem shuffle_eq {G : Type} [Random.Generator G] (xs : List α) (g : G) :
    shuffle xs g = .ok (Random.shuffle xs g) := by
  have enough : 0 + (Random.swapTargets xs.length g).1.length ≤ xs.toArray.size := by
    rw [Nat.zero_add]
    exact Random.length_swapTargets_le xs.length g
  have swapped := applySwaps_eq xs.toArray (Random.inward_swapTargets xs.length g) enough
  rw [shuffle, Random.shuffle]
  dsimp only at swapped ⊢
  rw [swapped]
  rfl

end Checked

end AsmLayout
