import AsmLayout.Proofs.Retry.Schedule

/-! # The course of a run

A run works on a file that it writes, hands over and restores. Its course knows no file: every
attempt of a schedule is made from the pristine text and handed over as it is. For an assembler that
leaves nothing but files, a run and its course end in the same way.
-/

namespace AsmLayout

namespace Content

/-- A file, or nothing where a file can be put. -/
def isPlain : Content → Bool
  | file _ | absent => true
  | guarded _ _ _ | directory | unreachable _ => false

theorem read_ofText (text : String) : (ofText text).read = .ok text := by
  have valid : text.toByteArray.IsValidUTF8 := text.isValidUTF8
  simp only [ofText, read, decode, String.fromUTF8?, String.toUTF8_eq_toByteArray, valid,
    ↓reduceDIte]
  rfl

theorem file_eq_ofText_of_read {bytes : ByteArray} {text : String}
    (h : (file bytes).read = .ok text) : file bytes = ofText text := by
  simp only [read, decode, String.fromUTF8?] at h
  split at h
  · rename_i decoded
    split at decoded
    · simp only [Option.some.injEq, Except.ok.injEq] at decoded h
      subst h
      subst decoded
      rfl
    · simp at decoded
  · simp at h

theorem write_of_isPlain {content : Content} (plain : content.isPlain = true) (text : String) :
    content.write text = .ok (ofText text) := by
  cases content with
  | file | absent => rfl
  | guarded | directory | unreachable => simp [isPlain] at plain

theorem isPlain_ofText (text : String) : (ofText text).isPlain = true := rfl

end Content

namespace Retry

variable {G σ : Type}

/-- A call of the assembler: what stood at the source path, the verdict, and what was left there. -/
structure Call where
  seen : Content
  verdict : Verdict
  left : Content
  deriving DecidableEq

namespace Assembler

/-- Handed a file with a text, the assembler leaves a file or nothing. Excluded are a directory, a file
    that may not be read or may not be written, and a place where nothing can be put any more (a link
    that leads nowhere, a path whose directories are gone). -/
def LeavesPlain (assemble : Assembler σ) : Prop :=
  ∀ s text, (assemble s (.ofText text)).2.1.isPlain = true

/-- The same assembler with a record of its calls. -/
def recorded (assemble : Assembler σ) : Assembler (List Call × σ) :=
  fun (calls, s) content =>
    let (verdict, left, s) := assemble s content
    (verdict, left, calls ++ [⟨content, verdict, left⟩], s)

theorem LeavesPlain.recorded {assemble : Assembler σ} (plain : assemble.LeavesPlain) :
    assemble.recorded.LeavesPlain := by
  intro s text
  exact plain s.2 text

/-- An assembler that deletes the source at its first call, and takes what it finds later on. -/
def deletesFirst : Assembler Nat
  | 0, _ => (.rejected ⟨some 1, "deleted"⟩, .absent, 1)
  | count + 1, content => (.accepted, content, count + 2)

theorem deletesFirst_leavesPlain : deletesFirst.LeavesPlain := by
  intro count text
  cases count <;> rfl

/-- An assembler that refuses whatever it finds, and leaves it as it is. -/
def refuses : Assembler Nat :=
  fun count content => (.rejected ⟨some 1, "refused"⟩, content, count + 1)

theorem refuses_leavesPlain : refuses.LeavesPlain := by
  intro count text
  rfl

/-- An assembler that refuses whatever it finds, and takes away a directory on the way to it. -/
def uproots : Assembler Nat :=
  fun count _ => (.rejected ⟨some 1, ""⟩, .unreachable .notFound, count + 1)

end Assembler

/-- The calls of a run and its end. -/
structure Course (G σ : Type) where
  calls : List Call
  result : Except Failure Report
  source : Content
  generator : G
  assembler : σ

def Course.after (call : Call) (course : Course G σ) : Course G σ :=
  { course with calls := call :: course.calls }

/-- A course with a record of its calls, behind those of an earlier record. -/
def Course.recorded (earlier : List Call) (course : Course G σ) : Course G (List Call × σ) :=
  { course with assembler := (earlier ++ course.calls, course.assembler) }

theorem Course.recorded_after (earlier : List Call) (call : Call) (course : Course G σ) :
    (course.after call).recorded earlier = (course.recorded (earlier ++ [call])).after call := by
  simp [recorded, after]

/-- What a verdict on the unmodified source means, after `rejected` rejected calls. -/
def lastResult (rejected : Nat) : Verdict → Except Failure Report
  | .accepted => .ok ⟨.unmodified, rejected + 1⟩
  | .rejected rejection =>
    .error (.assemblerFailed (rejected + 1) rejection.status rejection.stderr)

structure Run.EndsLike (run : Run G σ) (course : Course G σ) : Prop where
  result : run.result = course.result
  source : run.source = course.source
  generator : run.generator = course.generator
  assembler : run.assembler = course.assembler

namespace Run

theorem EndsLike.after {run : Run G σ} {course : Course G σ} (h : run.EndsLike course)
    (events : List Event) : (run.after events).EndsLike course :=
  ⟨h.result, h.source, h.generator, h.assembler⟩

theorem EndsLike.afterCall {run : Run G σ} {course : Course G σ} (h : run.EndsLike course)
    (call : Call) : run.EndsLike (course.after call) :=
  ⟨h.result, h.source, h.generator, h.assembler⟩

end Run

variable [Random.Generator G]

/-- The calls of the assembler in a run, in order. -/
def calls (config : Config) (policy : Policy) (width : PointerWidth) (assemble : Assembler σ)
    (path : String) (source : Content) (g : G) (s : σ) : List Call :=
  (run config policy width assemble.recorded path source g ([], s)).assembler.1

/-- The text that an attempt makes of a pristine text: the text itself where nothing is
    randomized. -/
def Attempt.offer (attempt : Attempt) (width : PointerWidth) (pristine : String) (g : G) :
    Except Failure String × G :=
  match attempt.config.randomize attempt.mode width pristine g with
  | (.error failure, g) => (.error failure, g)
  | (.ok none, g) => (.ok pristine, g)
  | (.ok (some randomized), g) => (.ok randomized.text, g)

/-- The course of a run with some attempts before it, after `rejected` rejected calls. -/
def course (assemble : Assembler σ) (width : PointerWidth) (pristine : String) :
    List Attempt → (rejected : Nat) → G → σ → Course G σ
  | [], rejected, g, s =>
    let (verdict, left, s) := assemble s (.ofText pristine)
    { calls := [⟨.ofText pristine, verdict, left⟩], result := lastResult rejected verdict,
      source := .ofText pristine, generator := g, assembler := s }
  | attempt :: rest, rejected, g, s =>
    match attempt.offer width pristine g with
    | (.error failure, g) =>
      { calls := [], result := .error failure, source := .ofText pristine, generator := g,
        assembler := s }
    | (.ok text, g) =>
      match assemble s (.ofText text) with
      | (.accepted, left, s) =>
        { calls := [⟨.ofText text, .accepted, left⟩],
          result := .ok ⟨.randomized attempt.phase attempt.number, rejected + 1⟩, source := left,
          generator := g, assembler := s }
      | (.rejected rejection, left, s) =>
        (course assemble width pristine rest (rejected + 1) g s).after
          ⟨.ofText text, .rejected rejection, left⟩

theorem randomizeSource_of_offer_error {attempt : Attempt} {width : PointerWidth}
    {pristine : String} {g g' : G} {failure : Failure}
    (h : attempt.offer width pristine g = (.error failure, g')) (path : String) :
    randomizeSource attempt.config attempt.mode width path (.ofText pristine) g =
      (.error failure, g') := by
  unfold Attempt.offer at h
  unfold randomizeSource
  split
  · rename_i inactive
    simp [Config.randomize, inactive] at h
  · simp only [Content.read_ofText]
    split at h <;> simp_all

theorem randomizeSource_of_offer_ok {attempt : Attempt} {width : PointerWidth}
    {pristine text : String} {g g' : G}
    (h : attempt.offer width pristine g = (.ok text, g')) (path : String) :
    ∃ events, randomizeSource attempt.config attempt.mode width path (.ofText pristine) g =
      (.ok (.ofText text, events), g') := by
  unfold Attempt.offer at h
  unfold randomizeSource
  split
  · rename_i inactive
    simp only [Config.randomize, inactive, ↓reduceIte, Prod.mk.injEq, Except.ok.injEq] at h
    obtain ⟨rfl, rfl⟩ := h
    exact ⟨[], rfl⟩
  · simp only [Content.read_ofText]
    generalize attempt.config.randomize attempt.mode width pristine g = drawn at h ⊢
    obtain ⟨result, after⟩ := drawn
    cases result with
    | error failure => simp at h
    | ok randomized? =>
        cases randomized? with
        | none =>
            simp only [Prod.mk.injEq, Except.ok.injEq] at h
            obtain ⟨rfl, rfl⟩ := h
            exact ⟨[], rfl⟩
        | some randomized =>
            simp only [Prod.mk.injEq, Except.ok.injEq] at h
            obtain ⟨rfl, rfl⟩ := h
            simp only [Content.write_of_isPlain (Content.isPlain_ofText pristine)]
            exact ⟨_, rfl⟩

section Agreement

variable {assemble : Assembler σ} {width : PointerWidth} (path : String) {pristine : String}

theorem assembleUnmodified_endsLike (plain : assemble.LeavesPlain) (rejected : Nat) (g : G)
    (s : σ) :
    (assembleUnmodified assemble pristine rejected (.ofText pristine) g s).EndsLike
      (course assemble width pristine [] rejected g s) := by
  have leaves := plain s pristine
  unfold assembleUnmodified course
  cases called : assemble s (.ofText pristine) with
  | mk verdict after =>
      rw [called] at leaves
      cases verdict with
      | accepted =>
          simp only [Run.restored, Content.write_of_isPlain leaves]
          exact ⟨rfl, rfl, rfl, rfl⟩
      | rejected rejection =>
          simp only [Run.restored, Content.write_of_isPlain leaves]
          exact ⟨rfl, rfl, rfl, rfl⟩

/-- What is left of a stage goes like the course of the attempts left, where what comes after the
    stage does. -/
theorem tryStage_endsLike (plain : assemble.LeavesPlain) (stage : Stage) {rest : List Attempt}
    {onward : Nat → Content → G → σ → Run G σ}
    (later : ∀ rejected g s, (onward rejected (.ofText pristine) g s).EndsLike
      (course assemble width pristine rest rejected g s))
    (left : Nat) (within : left ≤ stage.attempts) (rejected : Nat) (g : G) (s : σ) :
    (tryStage assemble width path pristine stage onward left rejected (.ofText pristine) g
      s).EndsLike
      (course assemble width pristine
        (stage.attemptsFrom (stage.attempts - left + 1) left ++ rest) rejected g s) := by
  induction left generalizing rejected g s with
  | zero => exact later rejected g s
  | succ left ih =>
      rw [show stage.attempts - (left + 1) + 1 = stage.attempts - left by omega,
        Stage.attemptsFrom_succ, List.cons_append]
      unfold tryStage course
      cases offered : (stage.attempt (stage.attempts - left)).offer width pristine g with
      | mk made g' =>
          cases made with
          | error failure =>
              have failed := randomizeSource_of_offer_error offered path
              simp only [Stage.attempt] at failed
              simp only [failed, Run.restored,
                Content.write_of_isPlain (Content.isPlain_ofText pristine)]
              exact ⟨rfl, rfl, rfl, rfl⟩
          | ok text =>
              obtain ⟨events, written⟩ := randomizeSource_of_offer_ok offered path
              simp only [Stage.attempt] at written
              have leaves := plain s text
              simp only [written]
              cases called : assemble s (.ofText text) with
              | mk verdict after =>
                  rw [called] at leaves
                  cases verdict with
                  | accepted => exact ⟨rfl, rfl, rfl, rfl⟩
                  | rejected rejection =>
                      simp only [Content.write_of_isPlain leaves]
                      exact ((ih (by omega) (rejected + 1) g' after.2).after _).afterCall _

theorem follow_endsLike (plain : assemble.LeavesPlain) (stages : List Stage) (rejected : Nat) (g : G)
    (s : σ) :
    (follow assemble width path pristine stages rejected (.ofText pristine) g s).EndsLike
      (course assemble width pristine
        (stages.flatMap fun stage => stage.attemptsFrom 1 stage.attempts) rejected g s) := by
  induction stages generalizing rejected g s with
  | nil => exact assembleUnmodified_endsLike plain rejected g s
  | cons stage rest ih =>
      have whole :=
        tryStage_endsLike path plain stage ih stage.attempts (Nat.le_refl _) rejected g s
      rw [Nat.sub_self, Nat.zero_add] at whole
      exact whole.after stage.opening

/-- A run on a text goes through its schedule as if there were no file. -/
theorem run_endsLike (plain : assemble.LeavesPlain) (config : Config) (policy : Policy) (g : G)
    (s : σ) :
    (run config policy width assemble path (.ofText pristine) g s).EndsLike
      (course assemble width pristine (schedule policy config) 0 g s) := by
  unfold run
  rw [schedule_eq, Content.read_ofText]
  exact follow_endsLike path plain (plan policy config) 0 g s

end Agreement

theorem course_recorded (assemble : Assembler σ) (width : PointerWidth) (pristine : String)
    (attempts : List Attempt) (rejected : Nat) (earlier : List Call) (g : G) (s : σ) :
    course assemble.recorded width pristine attempts rejected g (earlier, s) =
      (course assemble width pristine attempts rejected g s).recorded earlier := by
  fun_induction course assemble width pristine attempts rejected g s generalizing earlier with
  | case1 rejected g s verdict left after called =>
      simp only [course, Assembler.recorded, called, Course.recorded]
  | case2 attempt rest rejected g s failure g' offered =>
      simp only [course, offered, Course.recorded, List.append_nil]
  | case3 attempt rest rejected g s text g' offered left after called =>
      simp only [course, offered, Assembler.recorded, called, Course.recorded]
  | case4 attempt rest rejected g s text g' offered rejection left after called ih =>
      rw [Course.recorded_after, ← ih]
      simp only [course, offered, Assembler.recorded, called]

theorem calls_eq_course {assemble : Assembler σ} (plain : assemble.LeavesPlain) (config : Config)
    (policy : Policy) (width : PointerWidth) (path pristine : String) (g : G) (s : σ) :
    calls config policy width assemble path (.ofText pristine) g s =
      (course assemble width pristine (schedule policy config) 0 g s).calls := by
  unfold calls
  rw [(run_endsLike path plain.recorded config policy g ([], s)).assembler, course_recorded]
  rfl

end Retry

end AsmLayout
