import AsmLayout.Proofs.Retry.Course
import AsmLayout.Seed

/-! # What a run leaves at the source path

A run that ends with a randomized source leaves what the accepting call left. Every other run leaves
the source as it was, whatever the assembler did to the file on the way.
-/

namespace AsmLayout

namespace Retry

/-- Whether a run ended with a randomized source. -/
def isRandomized : Except Failure Report → Bool
  | .ok ⟨.randomized _ _, _⟩ => true
  | .ok ⟨.unmodified, _⟩ | .error _ => false

theorem isRandomized_lastResult (rejected : Nat) (verdict : Verdict) :
    isRandomized (lastResult rejected verdict) = false := by
  cases verdict <;> rfl

variable {G σ : Type} [Random.Generator G]

section Courses

variable {assemble : Assembler σ} {width : PointerWidth} {pristine : String}
  {attempts : List Attempt} {rejected : Nat} {g : G} {s : σ}

theorem answer_of_mem_course {call : Call}
    (member : call ∈ (course assemble width pristine attempts rejected g s).calls) :
    ∃ text s' after, call.seen = .ofText text ∧
      assemble s' (.ofText text) = (call.verdict, call.left, after) := by
  fun_induction course assemble width pristine attempts rejected g s with
  | case1 rejected g s verdict left after called =>
      rw [List.mem_singleton] at member
      subst member
      exact ⟨pristine, s, after, rfl, called⟩
  | case2 => simp at member
  | case3 attempt rest rejected g s text g' offered left after called =>
      rw [List.mem_singleton] at member
      subst member
      exact ⟨text, s, after, rfl, called⟩
  | case4 attempt rest rejected g s text g' offered rejection left after called ih =>
      rcases List.mem_cons.mp member with rfl | member
      · exact ⟨text, s, after, rfl, called⟩
      · exact ih member

theorem course_source_of_not_randomized
    (h : isRandomized (course assemble width pristine attempts rejected g s).result = false) :
    (course assemble width pristine attempts rejected g s).source = .ofText pristine := by
  fun_induction course assemble width pristine attempts rejected g s with
  | case1 => rfl
  | case2 => rfl
  | case3 => simp [isRandomized] at h
  | case4 attempt rest rejected g s text g' offered rejection left after called ih => exact ih h

theorem course_source_of_randomized
    (h : isRandomized (course assemble width pristine attempts rejected g s).result = true) :
    ∃ earlier last,
      (course assemble width pristine attempts rejected g s).calls = earlier ++ [last] ∧
      (∀ call ∈ earlier, call.verdict ≠ .accepted) ∧ last.verdict = .accepted ∧
      (course assemble width pristine attempts rejected g s).source = last.left := by
  fun_induction course assemble width pristine attempts rejected g s with
  | case1 => simp [isRandomized_lastResult] at h
  | case2 => simp [isRandomized] at h
  | case3 attempt rest rejected g s text g' offered left after called =>
      exact ⟨[], ⟨.ofText text, .accepted, left⟩, rfl, by simp, rfl, rfl⟩
  | case4 attempt rest rejected g s text g' offered rejection left after called ih =>
      obtain ⟨earlier, last, split, refused, accepted, source⟩ := ih h
      refine ⟨⟨.ofText text, .rejected rejection, left⟩ :: earlier, last, ?_, ?_, accepted, source⟩
      · rw [Course.after, split, List.cons_append]
      · intro call member
        rcases List.mem_cons.mp member with rfl | member
        · simp
        · exact refused call member

end Courses

/-- The source is never lost. If no randomized source was accepted it is in the end what it was, byte
    for byte. Otherwise the path holds what the accepting call left: the text that it was handed, if
    the assembler does not write to the path. -/
theorem source_never_lost {assemble : Assembler σ} (plain : assemble.LeavesPlain)
    {bytes : ByteArray} {text : String} (isText : (Content.file bytes).read = .ok text)
    (config : Config) (policy : Policy) (width : PointerWidth) (path : String) (g : G) (s : σ) :
    let ended := run config policy width assemble path (.file bytes) g s
    let made := calls config policy width assemble path (.file bytes) g s
    (isRandomized ended.result = false → ended.source = .file bytes) ∧
    (isRandomized ended.result = true → ∃ earlier last handed,
      made = earlier ++ [last] ∧ (∀ call ∈ earlier, call.verdict ≠ .accepted) ∧
      last.verdict = .accepted ∧ last.seen = .ofText handed ∧ ended.source = last.left ∧
      ((∀ s content, (assemble s content).2.1 = content) → ended.source = .ofText handed)) := by
  intro ended made
  have original : Content.file bytes = .ofText text := Content.file_eq_ofText_of_read isText
  have ends : ended.EndsLike (course assemble width text (schedule policy config) 0 g s) := by
    simp only [ended, original]
    exact run_endsLike path plain config policy g s
  have same : made = (course assemble width text (schedule policy config) 0 g s).calls := by
    simp only [made, original]
    exact calls_eq_course plain config policy width path text g s
  rw [ends.result, ends.source, same, original]
  constructor
  · exact course_source_of_not_randomized
  · intro h
    obtain ⟨earlier, last, split, refused, accepted, source⟩ := course_source_of_randomized h
    have member : last ∈ (course assemble width text (schedule policy config) 0 g s).calls := by
      simp [split]
    obtain ⟨handed, s', after, seen, answer⟩ := answer_of_mem_course member
    refine ⟨earlier, last, handed, split, refused, accepted, seen, source, ?_⟩
    intro untouched
    have left := untouched s' (.ofText handed)
    rw [answer] at left
    exact source.trans left

/-- A source that the assembler deletes is put back before the unmodified source is tried, and is
    there in the end. -/
theorem source_restored_after_deletion :
    Assembler.deletesFirst.LeavesPlain ∧ (Content.file ".cfi".toUTF8).read = .ok ".cfi" ∧
    (run { heap := 9 } ⟨1, 0, 0⟩ .bits64 .deletesFirst "input.s" (.file ".cfi".toUTF8)
      Seed.zero.generator 0).source = .file ".cfi".toUTF8 := by
  have isText : (Content.file ".cfi".toUTF8).read = .ok ".cfi" := Content.read_ofText ".cfi"
  refine ⟨Assembler.deletesFirst_leavesPlain, isText, ?_⟩
  have kept := source_never_lost Assembler.deletesFirst_leavesPlain isText { heap := 9 } ⟨1, 0, 0⟩
    .bits64 "input.s" Seed.zero.generator 0
  exact kept.1 (by decide +kernel)

end Retry

end AsmLayout
