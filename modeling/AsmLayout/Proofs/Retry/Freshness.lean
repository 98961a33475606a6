import AsmLayout.Proofs.Retry.Passage
import AsmLayout.Random.Keystream
import Mathlib.Data.List.Chain

/-! # Every attempt starts afresh

What an attempt hands to the assembler is made from the pristine text and the generator alone. The
generator goes from attempt to attempt and from run to run; nothing that the assembler does to the
file is seen by a later attempt.
-/

namespace AsmLayout

namespace Retry

variable {G σ : Type} [Random.Generator G]

theorem Attempt.offer_of_inactive {attempt : Attempt} (inactive : attempt.config.isActive = false)
    (width : PointerWidth) (text : String) (g : G) :
    attempt.offer width text g = (.ok text, g) := by
  simp [offer, Config.randomize, inactive]

/-- A run to be made: the path of its source, the text there, and what the assembler does with it. -/
structure Job (σ : Type) where
  path : String
  text : String
  assemble : Assembler σ

/-- One run of a series: its job, the generator it began with, its end and its calls. -/
structure Lap (G σ : Type) where
  job : Job σ
  start : G
  ended : Run G σ
  made : List Call

/-- Runs one after the other, with one generator and one state of the assembler. -/
def series (config : Config) (policy : Policy) (width : PointerWidth) :
    List (Job σ) → G → σ → List (Lap G σ)
  | [], _, _ => []
  | job :: rest, g, s =>
    let ended := run config policy width job.assemble job.path (.ofText job.text) g s
    { job, start := g, ended,
      made := calls config policy width job.assemble job.path (.ofText job.text) g s } ::
      series config policy width rest ended.generator ended.assembler

section Series

variable (config : Config) (policy : Policy) (width : PointerWidth)

theorem job_series (jobs : List (Job σ)) (g : G) (s : σ) :
    (series config policy width jobs g s).map (·.job) = jobs := by
  induction jobs generalizing g s with
  | nil => rfl
  | cons job rest ih => rw [series, List.map_cons, ih]

theorem start_of_head_series {jobs : List (Job σ)} {g : G} {s : σ} {lap : Lap G σ}
    (first : lap ∈ (series config policy width jobs g s).head?) : lap.start = g := by
  cases jobs with
  | nil => simp [series] at first
  | cons job rest =>
      obtain rfl := Option.some.inj first
      rfl

theorem series_linked (jobs : List (Job σ)) (g : G) (s : σ) :
    (series config policy width jobs g s).IsChain
      fun before after => after.start = before.ended.generator := by
  induction jobs generalizing g s with
  | nil => exact .nil
  | cons job rest ih =>
      refine List.isChain_cons.mpr ⟨?_, ih _ _⟩
      intro lap first
      exact start_of_head_series config policy width first

theorem lap_of_mem_series {jobs : List (Job σ)} {g : G} {s : σ} {lap : Lap G σ}
    (member : lap ∈ series config policy width jobs g s) :
    lap.job ∈ jobs ∧ ∃ s',
      lap.ended = run config policy width lap.job.assemble lap.job.path (.ofText lap.job.text)
        lap.start s' ∧
      lap.made = calls config policy width lap.job.assemble lap.job.path (.ofText lap.job.text)
        lap.start s' := by
  induction jobs generalizing g s with
  | nil => simp [series] at member
  | cons job rest ih =>
      rcases List.mem_cons.mp member with rfl | later
      · exact ⟨List.mem_cons_self .., s, rfl, rfl⟩
      · obtain ⟨listed, found⟩ := ih later
        exact ⟨List.mem_cons_of_mem _ listed, found⟩

end Series

/-- Retries are never cumulative. In every run of a series, whatever the assembler does, the calls
    see what the attempts made of the run's own text, in order, up to the first that is accepted or
    cannot be made ready, or else all of them and then that text itself. The generator goes through
    these attempts and nothing else, within a run and from run to run. -/
theorem retries_not_cumulative {jobs : List (Job σ)}
    (plain : ∀ job ∈ jobs, job.assemble.LeavesPlain) (config : Config) (policy : Policy)
    (width : PointerWidth) (g : G) (s : σ) :
    let laps := series config policy width jobs g s
    let attempts := schedule policy config
    laps.map (·.job) = jobs ∧ (∀ lap ∈ laps.head?, lap.start = g) ∧
    laps.IsChain (fun before after => after.start = before.ended.generator) ∧
    (∀ lap ∈ laps, GoesThrough width lap.job.text 0 attempts lap.start (lap.made.map (·.seen))
      (lap.made.map (·.verdict)) lap.ended.result lap.ended.generator) ∧
    ∀ attempt ∈ attempts,
      attempt.mode = (if attempt.phase = .relaxed then .smallChanges else .shuffle) ∧
      attempt.config =
        (if attempt.phase = .fallback then config.withoutFileStructure else config) ∧
      (attempt.config.isActive = false →
        ∀ text (g : G), attempt.offer width text g = (.ok text, g)) := by
  intro laps attempts
  refine ⟨job_series config policy width jobs g s, fun lap => start_of_head_series _ _ _,
    series_linked config policy width jobs g s, ?_, ?_⟩
  · intro lap member
    obtain ⟨listed, s', ended, made⟩ := lap_of_mem_series config policy width member
    have leaves := plain lap.job listed
    have ends : lap.ended.EndsLike
        (course lap.job.assemble width lap.job.text attempts 0 lap.start s') := by
      rw [ended]
      exact run_endsLike lap.job.path leaves config policy lap.start s'
    rw [ends.result, ends.generator, made, calls_eq_course leaves]
    exact course_goesThrough lap.job.assemble width lap.job.text attempts 0 lap.start s'
  · intro attempt member
    obtain ⟨mode, config⟩ := attempt_of_mem_schedule member
    exact ⟨mode, config, fun inactive => Attempt.offer_of_inactive inactive width⟩

/-- The first assembler deletes its source and accepts the next attempt, which pads the one call anew;
    the second refuses both attempts and the text itself. -/
theorem retries_not_cumulative_after_deletion :
    let jobs : List (Job Nat) :=
      [⟨"first.s", ".cfi\n\tcall malloc", .deletesFirst⟩,
        ⟨"second.s", ".cfi\n\tcall calloc", .refuses⟩]
    let g : Random.Keystream :=
      ⟨Vector.replicate 8 0, 0, [0, 0xE0000000, 0, 0x80000000, 0, 0x40000000, 0, 0xC0000000]⟩
    let laps := series { heap := 9 } ⟨2, 0, 0⟩ .bits64 jobs g 0
    (∀ job ∈ jobs, job.assemble.LeavesPlain) ∧
    (∀ lap ∈ laps, GoesThrough .bits64 lap.job.text 0 (schedule ⟨2, 0, 0⟩ { heap := 9 }) lap.start
      (lap.made.map (·.seen)) (lap.made.map (·.verdict)) lap.ended.result lap.ended.generator) ∧
    laps.map (fun lap => lap.made.map (·.seen)) =
      [[.ofText ".cfi\n\taddq $7, %rdi\n\tcall malloc\n",
          .ofText ".cfi\n\taddq $4, %rdi\n\tcall malloc\n"],
        [.ofText ".cfi\n\taddq $2, %rdi\n\tcall calloc\n",
          .ofText ".cfi\n\taddq $6, %rdi\n\tcall calloc\n", .ofText ".cfi\n\tcall calloc"]] ∧
    laps.map (fun lap => lap.ended.result) = [.ok ⟨.randomized .strict 2, 2⟩,
      .error (.assemblerFailed 3 (some 1) "refused")] := by
  intro jobs g laps
  have plain : ∀ job ∈ jobs, job.assemble.LeavesPlain := by
    intro job member
    simp only [jobs, List.mem_cons, List.not_mem_nil, or_false] at member
    rcases member with rfl | rfl
    · exact Assembler.deletesFirst_leavesPlain
    · exact Assembler.refuses_leavesPlain
  obtain ⟨-, -, -, through, -⟩ := retries_not_cumulative plain { heap := 9 } ⟨2, 0, 0⟩ .bits64 g 0
  exact ⟨plain, through, by decide +kernel, by decide +kernel⟩

end Retry

end AsmLayout
