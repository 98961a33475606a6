import AsmLayout.Proofs.Retry.Accounting

/-! # Attempts that can be made ready

Whether an attempt can be made ready depends on its configuration and the pristine text alone. The
first attempt of a schedule decides for all of them, so a run that fails for another reason than a
last rejection fails before the assembler is called.
-/

namespace AsmLayout

/-- Whether a failure is the assembler's refusal of the unmodified source. -/
def Failure.isRefusal : Failure → Bool
  | assemblerFailed _ _ _ => true
  | source _ | paddingBoundTooLarge _ _ _ | invalidConfig _ => false

/-- Whether something stands there that may not be read or may not be written. -/
def Content.isGuarded : Content → Bool
  | guarded _ _ _ => true
  | file _ | directory | absent | unreachable _ => false

theorem Content.eq_ofText_of_read {content : Content} (unguarded : content.isGuarded = false)
    {text : String} (isText : content.read = .ok text) : content = .ofText text := by
  cases content with
  | file bytes => exact file_eq_ofText_of_read isText
  | guarded => contradiction
  | directory | absent | unreachable => contradiction

theorem Config.Suits.withoutFileStructure {config : Config} {text : String}
    (suits : config.Suits text) : config.withoutFileStructure.Suits text := by
  intro active
  apply suits
  rw [isActive, Config.withoutFileStructure, Bool.or_false] at active
  rw [isActive, Bool.or_eq_true]
  exact .inl active

namespace Retry

variable {G σ : Type} [Random.Generator G]

theorem Attempt.suits_of_offer_ok {attempt : Attempt} {width : PointerWidth} {text handed : String}
    {g g' : G} (offered : attempt.offer width text g = (.ok handed, g')) :
    attempt.config.Suits text := by
  intro active
  simp only [offer, Config.randomize, active] at offered
  cases valid : attempt.config.validate with
  | error failure => simp [valid] at offered
  | ok =>
      cases parsed : Listing.parse text with
      | error cause => simp [valid, parsed] at offered
      | ok listing => exact ⟨rfl, listing, rfl⟩

/-- Later phases switch randomizations off and none on, so a text that suits the first attempt suits
    all. -/
theorem suits_of_first {policy : Policy} {config : Config} {first : Attempt} {rest : List Attempt}
    (scheduled : schedule policy config = first :: rest) {text : String}
    (suits : first.config.Suits text) {attempt : Attempt}
    (member : attempt ∈ schedule policy config) : attempt.config.Suits text := by
  have begins : (schedule policy config)[0]? = some first := by
    rw [scheduled]
    rfl
  have own := (attempt_of_mem_schedule (List.mem_of_getElem? begins)).2
  rw [(attempt_of_mem_schedule member).2]
  cases last : decide (first.phase = .fallback) with
  | false =>
      have whole : config.Suits text := by
        rwa [own, if_neg (of_decide_eq_false last)] at suits
      split
      · exact whole.withoutFileStructure
      · exact whole
  -- A schedule that begins with the fallback phase has no other.
  | true =>
      have mild : config.withoutFileStructure.Suits text := by
        rwa [own, if_pos (of_decide_eq_true last)] at suits
      obtain ⟨index, _, there⟩ := List.getElem_of_mem member
      have place := place_of_schedule (List.getElem?_eq_some_iff.mpr ⟨_, there⟩)
      have empty := congrArg Prod.fst (place_of_schedule begins)
      rw [of_decide_eq_true last] at empty
      unfold Policy.place at empty place
      split at empty
      · contradiction
      · split at empty
        · contradiction
        · rw [if_neg (by omega), if_neg (by omega), Prod.mk.injEq] at place
          rw [if_pos place.1.symm]
          exact mild

theorem isRefusal_of_lastResult {rejected : Nat} {verdict : Verdict} {failure : Failure}
    (fails : lastResult rejected verdict = .error failure) : failure.isRefusal = true := by
  cases verdict with
  | accepted => contradiction
  | rejected rejection =>
      cases fails
      rfl

theorem ready_of_calls {assemble : Assembler σ} {width : PointerWidth} {pristine : String}
    {policy : Policy} {config : Config} {rejected : Nat} {g : G} {s : σ}
    (called : (course assemble width pristine (schedule policy config) rejected g s).calls ≠ []) :
    ∀ attempt ∈ schedule policy config, attempt.Ready G width pristine := by
  intro attempt member
  cases scheduled : schedule policy config with
  | nil => simp [scheduled] at member
  | cons first rest =>
      rw [scheduled, course] at called
      cases offered : first.offer width pristine g with
      | mk made g' =>
          cases made with
          | error failure => simp [offered] at called
          | ok handed =>
              have suits := suits_of_first scheduled (Attempt.suits_of_offer_ok offered) member
              exact Attempt.ready_of_suits suits width

theorem isRefusal_of_ready {assemble : Assembler σ} {width : PointerWidth} {pristine : String}
    {attempts : List Attempt} (ready : ∀ attempt ∈ attempts, attempt.Ready G width pristine)
    {rejected : Nat} {g : G} {s : σ} {failure : Failure}
    (fails : (course assemble width pristine attempts rejected g s).result = .error failure) :
    failure.isRefusal = true := by
  obtain ⟨refusals, last, -, ⟨-, attempt, -, randomized⟩ | ⟨-, decided⟩⟩ :=
    (course_goesThrough assemble width pristine attempts rejected g s).verdicts ready
  · rw [fails] at randomized
    contradiction
  · rw [fails] at decided
    exact isRefusal_of_lastResult decided.symm

/-- A run that fails otherwise than by a last refusal has not called the assembler: the source, the
    configuration and the markers of the text are at fault before the first call or never. Once the
    assembler has been called, every attempt of every phase can be made ready from the text that was
    there at first, whatever the assembler does to the file. Excluded are a source that may be read but
    not written, and an assembler that leaves what cannot be read or written: there the text cannot be
    put back. -/
theorem failure_before_first_call {assemble : Assembler σ} (plain : assemble.LeavesPlain)
    {source : Content} (unguarded : ∀ text, source.read = .ok text → source.isGuarded = false)
    (config : Config) (policy : Policy) (width : PointerWidth) (path : String) (g : G) (s : σ) :
    let ended := run config policy width assemble path source g s
    let made := calls config policy width assemble path source g s
    (∀ failure, ended.result = .error failure → failure.isRefusal = false → made = []) ∧
    (made ≠ [] → ∃ text, source.read = .ok text ∧
      ∀ attempt ∈ schedule policy config, attempt.Ready G width text) := by
  intro ended made
  cases isText : source.read with
  | error cause =>
      have silent : made = [] := by simp [made, calls, run, isText]
      exact ⟨fun _ _ _ => silent, fun called => absurd silent called⟩
  | ok text =>
      have original := Content.eq_ofText_of_read (unguarded text isText) isText
      have ends : ended.EndsLike (course assemble width text (schedule policy config) 0 g s) := by
        simp only [ended, original]
        exact run_endsLike path plain config policy g s
      have same : made = (course assemble width text (schedule policy config) 0 g s).calls := by
        simp only [made, original]
        exact calls_eq_course plain config policy width path text g s
      rw [ends.result, same]
      constructor
      · intro failure fails other
        apply Decidable.byContradiction
        intro called
        have refused := isRefusal_of_ready (ready_of_calls called) fails
        rw [other] at refused
        contradiction
      · intro called
        exact ⟨text, rfl, ready_of_calls called⟩

/-- A bound that is too large is found in the fallback phase, when there is no other. -/
theorem failure_before_first_call_in_fallback :
    let config : Config := { stack := 0x80000001, fileStructure := true }
    let source : Content := .ofText ".cfi"
    Assembler.deletesFirst.LeavesPlain ∧
    (∀ text, source.read = .ok text → source.isGuarded = false) ∧
    (run config ⟨0, 0, 3⟩ .bits64 .deletesFirst "input.s" source Seed.zero.generator 0).result =
      .error (.paddingBoundTooLarge "stack" 0x80000001 0x80000000) ∧
    calls config ⟨0, 0, 3⟩ .bits64 .deletesFirst "input.s" source Seed.zero.generator 0 = [] := by
  intro config source
  have unguarded : ∀ text, source.read = .ok text → source.isGuarded = false := fun _ _ => rfl
  have fails : (run config ⟨0, 0, 3⟩ .bits64 .deletesFirst "input.s" source Seed.zero.generator
      0).result = .error (.paddingBoundTooLarge "stack" 0x80000001 0x80000000) := by
    rfl
  have early := failure_before_first_call Assembler.deletesFirst_leavesPlain unguarded config
    ⟨0, 0, 3⟩ .bits64 "input.s" Seed.zero.generator 0
  exact ⟨Assembler.deletesFirst_leavesPlain, unguarded, fails, early.1 _ fails rfl⟩

/-- A source that may be read but not written fails after the first call, though nothing touches it;
    so does a source that cannot be reached any more. Neither assembler ever leaves a directory. -/
theorem failure_after_first_call :
    let readOnly : Content := .guarded ".cfi".toUTF8 true false
    let denied : Failure := .source (.fileWrite "input.s" .permissionDenied)
    let lost : Failure := .source (.fileWrite "sub/../input.s" .notFound)
    (∀ count content, content ≠ .directory → (Assembler.refuses count content).2.1 ≠ .directory) ∧
    (run {} {} .bits64 .refuses "input.s" readOnly Seed.zero.generator 0).result = .error denied ∧
    denied.isRefusal = false ∧
    calls {} {} .bits64 .refuses "input.s" readOnly Seed.zero.generator 0 =
      [⟨readOnly, .rejected ⟨some 1, "refused"⟩, readOnly⟩] ∧
    (∀ count content, (Assembler.uproots count content).2.1 ≠ .directory) ∧
    (run {} {} .bits64 .uproots "sub/../input.s" (.ofText ".cfi") Seed.zero.generator 0).result =
      .error lost ∧
    lost.isRefusal = false ∧
    calls {} {} .bits64 .uproots "sub/../input.s" (.ofText ".cfi") Seed.zero.generator 0 =
      [⟨.ofText ".cfi", .rejected ⟨some 1, ""⟩, .unreachable .notFound⟩] := by
  intro readOnly denied lost
  exact ⟨fun _ _ other => other, by rfl, rfl, by decide +kernel, nofun, by rfl, rfl,
    by decide +kernel⟩

end Retry

end AsmLayout
