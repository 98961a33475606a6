import AsmLayout.Proofs.Retry.Passage
import AsmLayout.Seed

/-! # How often the assembler runs

Where every attempt can be made ready, the verdicts alone decide how a run goes: refusals, then one
last verdict. An acceptance ends the run at once, and after the last attempt of the schedule one
more call decides between the unmodified source and failure.
-/

namespace AsmLayout

namespace Retry

variable {G σ : Type} [Random.Generator G]

theorem ready_of_mem_schedule {policy : Policy} {config : Config} {text : String}
    {listing : Listing} (valid : config.validate = .ok ())
    (parsed : Listing.parse text = .ok listing)
    {attempt : Attempt} (member : attempt ∈ schedule policy config) (width : PointerWidth) :
    attempt.Ready G width text := by
  have checked : attempt.config.validate = .ok () := by
    rw [(attempt_of_mem_schedule member).2]
    split
    · exact valid
    · exact valid
  exact Attempt.ready_of_suits (fun _ => ⟨checked, listing, parsed⟩) width

/-- Refusals come first, then one last verdict: an acceptance of an attempt, or the verdict on the
    unmodified source after all attempts. -/
theorem GoesThrough.verdicts {width : PointerWidth} {text : String} {rejected : Nat}
    {attempts : List Attempt} {start g : G} {seen : List Content} {verdicts : List Verdict}
    {result : Except Failure Report}
    (through : GoesThrough width text rejected attempts start seen verdicts result g)
    (ready : ∀ attempt ∈ attempts, attempt.Ready G width text) :
    ∃ (refusals : List Rejection) (last : Verdict),
      verdicts = refusals.map .rejected ++ [last] ∧
      ((last = .accepted ∧ ∃ attempt, attempts[refusals.length]? = some attempt ∧
          result = .ok ⟨.randomized attempt.phase attempt.number, rejected + refusals.length + 1⟩) ∨
        (refusals.length = attempts.length ∧
          result = lastResult (rejected + refusals.length) last)) := by
  cases through with
  | accepted refusals handed scheduled made all =>
      exact ⟨refusals, .accepted, rfl, .inl ⟨rfl, _, scheduled, rfl⟩⟩
  | notReady refusals handed scheduled made all fails =>
      obtain ⟨handed, after, offered⟩ := ready _ (List.mem_of_getElem? scheduled) _
      rw [offered] at fails
      cases fails
  | @exhausted refusals handed last _ made all refused =>
      exact ⟨refusals, last, rfl, .inr ⟨refused, by rw [refused]⟩⟩

/-- The calls of a run and their verdicts account for its end. Either all but the last of at most as
    many calls as there are attempts were refused, and the source accepted last is the one whose
    number is the number of calls; or all attempts were refused, and one more call decides. -/
theorem attempts_accounted {assemble : Assembler σ} (plain : assemble.LeavesPlain) {config : Config}
    (valid : config.validate = .ok ()) {text : String} {listing : Listing}
    (parsed : Listing.parse text = .ok listing) (policy : Policy) (width : PointerWidth)
    (path : String) (g : G) (s : σ) :
    let ended := run config policy width assemble path (.ofText text) g s
    let verdicts := (calls config policy width assemble path (.ofText text) g s).map (·.verdict)
    let total := attemptCount policy config
    (∃ refusals : List Rejection, refusals.length < total ∧
      verdicts = refusals.map .rejected ++ [.accepted] ∧
      ended.result = .ok ⟨.randomized (policy.place (refusals.length + 1)).1
        (policy.place (refusals.length + 1)).2, refusals.length + 1⟩) ∨
    (∃ refusals : List Rejection, refusals.length = total ∧
      ((verdicts = refusals.map .rejected ++ [.accepted] ∧
          ended.result = .ok ⟨.unmodified, total + 1⟩) ∨
        ∃ last : Rejection, verdicts = refusals.map .rejected ++ [.rejected last] ∧
          ended.result = .error (.assemblerFailed (total + 1) last.status last.stderr))) := by
  intro ended verdicts total
  have ends : ended.EndsLike (course assemble width text (schedule policy config) 0 g s) :=
    run_endsLike path plain config policy g s
  have ready : ∀ attempt ∈ schedule policy config, attempt.Ready G width text := by
    intro attempt member
    exact ready_of_mem_schedule valid parsed member width
  have same : verdicts = (course assemble width text (schedule policy config) 0 g s).calls.map
      (·.verdict) :=
    congrArg (List.map (·.verdict)) (calls_eq_course plain config policy width path text g s)
  have through := course_goesThrough assemble width text (schedule policy config) 0 g s
  obtain ⟨refusals, last, split, decided⟩ := through.verdicts ready
  rw [Nat.zero_add, ← ends.result] at decided
  rw [← same] at split
  rcases decided with ⟨rfl, attempt, scheduled, result⟩ | ⟨all, result⟩
  · have inside := (List.getElem?_eq_some_iff.mp scheduled).1
    rw [length_schedule] at inside
    refine .inl ⟨refusals, inside, split, ?_⟩
    rw [result, place_of_schedule scheduled]
  · rw [length_schedule] at all
    refine .inr ⟨refusals, all, ?_⟩
    rw [all] at result
    cases last with
    | accepted => exact .inl ⟨split, result⟩
    | rejected last => exact .inr ⟨last, split, result⟩

/-- The assembler deletes the source at its first call and takes it at its second, the only relaxed
    attempt. -/
theorem attempts_accounted_after_deletion :
    Assembler.deletesFirst.LeavesPlain ∧ Config.validate { heap := 9 } = .ok () ∧
    Listing.parse ".cfi" = .ok ⟨.gcc, [⟨.plain, .gcc, [⟨".cfi", 0⟩]⟩]⟩ ∧
    let ended := run { heap := 9 } ⟨1, 1, 0⟩ .bits64 .deletesFirst "input.s" (.ofText ".cfi")
      Seed.zero.generator 0
    let verdicts := (calls { heap := 9 } ⟨1, 1, 0⟩ .bits64 .deletesFirst "input.s" (.ofText ".cfi")
      Seed.zero.generator 0).map (·.verdict)
    verdicts.length = 2 ∧ ended.result = .ok ⟨.randomized .relaxed 1, 2⟩ := by
  have valid : Config.validate { heap := 9 } = .ok () := rfl
  have parsed : Listing.parse ".cfi" = .ok ⟨.gcc, [⟨.plain, .gcc, [⟨".cfi", 0⟩]⟩]⟩ := by
    have split : (Text.lines ".cfi".toList).map (fun line => String.ofList (Text.trimEnd line)) =
        [".cfi"] := by decide +kernel
    have told : Dialect.detect (Line.numbered 0 [".cfi"]) = .ok .gcc := by
      rw [Dialect.detect, if_neg (by decide +kernel), if_pos (by decide +kernel)]
    have cut : Listing.partition .gcc (Line.numbered 0 [".cfi"]) =
        [⟨.plain, .gcc, [⟨".cfi", 0⟩]⟩] := by decide +kernel
    rw [Listing.parse, split, Listing.ofLines]
    simp only [told, cut]
  have made : (calls { heap := 9 } ⟨1, 1, 0⟩ .bits64 .deletesFirst "input.s" (.ofText ".cfi")
      Seed.zero.generator 0).map (·.verdict) = [.rejected ⟨some 1, "deleted"⟩, .accepted] := by
    decide +kernel
  refine ⟨Assembler.deletesFirst_leavesPlain, valid, parsed, ?_⟩
  have accounted := attempts_accounted Assembler.deletesFirst_leavesPlain valid parsed ⟨1, 1, 0⟩
    .bits64 "input.s" Seed.zero.generator 0
  simp only [made] at accounted ⊢
  refine ⟨rfl, ?_⟩
  rcases accounted with ⟨refusals, _, verdicts, result⟩ | ⟨refusals, all, verdicts⟩
  · have count := congrArg List.length verdicts
    simp only [List.length_cons, List.length_nil, List.length_append, List.length_map] at count
    have one : refusals.length = 1 := by omega
    rw [result, one]
    rfl
  · have count : 2 = refusals.length + 1 := by
      rcases verdicts with ⟨verdicts, _⟩ | ⟨last, verdicts, _⟩ <;>
        simpa using congrArg List.length verdicts
    simp only [attemptCount] at all
    omega

end Retry

end AsmLayout
