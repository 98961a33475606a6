import AsmLayout.Retry

/-! # The schedule of a run

A schedule is a plan written out attempt by attempt. Calls of the assembler are counted from one on,
and the number of a call tells its phase and its place in it.
-/

namespace AsmLayout

namespace Retry

/-- One attempt of a run. -/
structure Attempt where
  phase : Phase
  /-- Its number within the phase, from one on. -/
  number : Nat
  config : Config
  mode : StructureMode
  deriving Repr, DecidableEq

/-- All attempts of a run in order. -/
def schedule (policy : Policy) (config : Config) : List Attempt :=
  (List.range' 1 policy.strict).map (⟨.strict, ·, config, .shuffle⟩) ++
  (List.range' 1 policy.relaxed).map (⟨.relaxed, ·, config, .smallChanges⟩) ++
  if config.fileStructure then
    (List.range' 1 policy.fallback).map (⟨.fallback, ·, config.withoutFileStructure, .shuffle⟩)
  else []

/-- The number of attempts of a run. -/
def attemptCount (policy : Policy) (config : Config) : Nat :=
  policy.strict + policy.relaxed + if config.fileStructure then policy.fallback else 0

/-- The phase of a numbered attempt, and its number within the phase. -/
def Policy.place (policy : Policy) (number : Nat) : Phase × Nat :=
  if number ≤ policy.strict then (.strict, number)
  else if number ≤ policy.strict + policy.relaxed then (.relaxed, number - policy.strict)
  else (.fallback, number - policy.strict - policy.relaxed)

theorem length_schedule (policy : Policy) (config : Config) :
    (schedule policy config).length = attemptCount policy config := by
  cases h : config.fileStructure <;> simp [schedule, attemptCount, h, Nat.add_assoc]

theorem attempt_of_mem_schedule {policy : Policy} {config : Config} {attempt : Attempt}
    (member : attempt ∈ schedule policy config) :
    attempt.mode = (if attempt.phase = .relaxed then .smallChanges else .shuffle) ∧
      attempt.config =
        if attempt.phase = .fallback then config.withoutFileStructure else config := by
  simp only [schedule, List.mem_append, List.mem_map] at member
  rcases member with (⟨number, _, rfl⟩ | ⟨number, _, rfl⟩) | member
  · simp
  · simp
  · split at member
    · obtain ⟨number, _, rfl⟩ := List.mem_map.mp member
      simp
    · simp at member

private theorem numbered_getElem? (make : Nat → Attempt) (count index : Nat) :
    ((List.range' 1 count).map make)[index]? =
      if index < count then some (make (index + 1)) else none := by
  split
  · rename_i inside
    rw [List.getElem?_map, List.getElem?_range' inside, Option.map_some, Nat.one_mul, Nat.add_comm]
  · rename_i outside
    exact List.getElem?_eq_none (by simpa using outside)

theorem place_of_schedule {policy : Policy} {config : Config} {index : Nat} {attempt : Attempt}
    (scheduled : (schedule policy config)[index]? = some attempt) :
    policy.place (index + 1) = (attempt.phase, attempt.number) := by
  have inside : index < attemptCount policy config := by
    rw [← length_schedule]
    exact (List.getElem?_eq_some_iff.mp scheduled).1
  simp only [schedule, List.getElem?_append, List.length_append, List.length_map,
    List.length_range', numbered_getElem?] at scheduled
  unfold Policy.place
  by_cases strict : index < policy.strict
  · rw [if_pos (by omega), if_pos strict, if_pos strict] at scheduled
    rw [if_pos (by omega)]
    obtain rfl := Option.some.inj scheduled
    rfl
  · by_cases relaxed : index < policy.strict + policy.relaxed
    · rw [if_pos relaxed, if_neg strict, if_pos (by omega)] at scheduled
      rw [if_neg (by omega), if_pos (by omega)]
      obtain rfl := Option.some.inj scheduled
      simp only [Prod.mk.injEq, true_and]
      omega
    · rw [if_neg relaxed] at scheduled
      rw [if_neg (by omega), if_neg (by omega)]
      split at scheduled
      · rename_i reordered
        simp only [attemptCount, reordered, ↓reduceIte] at inside
        rw [numbered_getElem?, if_pos (by omega)] at scheduled
        obtain rfl := Option.some.inj scheduled
        simp only [Prod.mk.injEq, true_and]
        omega
      · simp at scheduled

def Stage.attempt (stage : Stage) (number : Nat) : Attempt :=
  ⟨stage.phase, number, stage.config, stage.mode⟩

/-- Some attempts of a stage, from a number on. -/
def Stage.attemptsFrom (stage : Stage) (number count : Nat) : List Attempt :=
  (List.range' number count).map stage.attempt

theorem Stage.attemptsFrom_succ (stage : Stage) (number count : Nat) :
    stage.attemptsFrom number (count + 1) =
      stage.attempt number :: stage.attemptsFrom (number + 1) count := by
  rw [attemptsFrom, List.range'_succ, List.map_cons, attemptsFrom]

theorem schedule_eq (policy : Policy) (config : Config) :
    schedule policy config =
      (plan policy config).flatMap fun stage => stage.attemptsFrom 1 stage.attempts := by
  cases h : config.fileStructure with
  | false =>
      simp only [schedule, plan, Stage.attemptsFrom, h, List.flatMap_cons, List.flatMap_nil,
        Bool.false_eq_true, ↓reduceIte, List.append_assoc]
      rfl
  | true =>
      simp only [schedule, plan, Stage.attemptsFrom, h, List.flatMap_cons, List.flatMap_nil,
        ↓reduceIte, List.append_assoc, List.append_nil]
      rfl

end Retry

end AsmLayout
