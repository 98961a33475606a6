import AsmLayout.Proofs.Retry.Course

/-! # How a run goes through its attempts

Each attempt in turn is made from the pristine text and refused, up to one that is accepted or one
that cannot be made ready. Behind the last attempt the pristine text itself is tried.
-/

namespace AsmLayout

/-- A text can be randomized: the bounds are valid and the text can be parsed, if anything is to be
    done at all. -/
def Config.Suits (config : Config) (text : String) : Prop :=
  config.isActive = true → config.validate = .ok () ∧ ∃ listing, Listing.parse text = .ok listing

namespace Retry

variable {G σ : Type} [Random.Generator G]

/-- What attempts make of a text, up to the first that cannot be made ready, and the generator in the
    end. Each draws from what the one before left; none sees what another made. -/
def offers (width : PointerWidth) (text : String) : List Attempt → G → List String × G
  | [], g => ([], g)
  | attempt :: rest, g =>
    match attempt.offer width text g with
    | (.error _, g) => ([], g)
    | (.ok handed, g) =>
      let (later, g) := offers width text rest g
      (handed :: later, g)

/-- How attempts on a text go, after `rejected` rejected calls: what the calls see, their verdicts,
    the result and the generator in the end. -/
inductive GoesThrough (width : PointerWidth) (text : String) (rejected : Nat)
    (attempts : List Attempt) (start : G) :
    List Content → List Verdict → Except Failure Report → G → Prop where
  /-- The attempt behind some refusals is accepted. -/
  | accepted (refusals : List Rejection) (handed : List String) {attempt : Attempt} {g : G}
      (scheduled : attempts[refusals.length]? = some attempt)
      (made : offers width text (attempts.take (refusals.length + 1)) start = (handed, g))
      (all : handed.length = refusals.length + 1) :
      GoesThrough width text rejected attempts start (handed.map .ofText)
        (refusals.map .rejected ++ [.accepted])
        (.ok ⟨.randomized attempt.phase attempt.number, rejected + refusals.length + 1⟩) g
  /-- The attempt behind some refusals cannot be made ready. -/
  | notReady (refusals : List Rejection) (handed : List String) {attempt : Attempt}
      {failure : Failure} {g g' : G}
      (scheduled : attempts[refusals.length]? = some attempt)
      (made : offers width text (attempts.take refusals.length) start = (handed, g))
      (all : handed.length = refusals.length)
      (fails : attempt.offer width text g = (.error failure, g')) :
      GoesThrough width text rejected attempts start (handed.map .ofText)
        (refusals.map .rejected) (.error failure) g'
  /-- All attempts are refused, and the text itself is tried. -/
  | exhausted (refusals : List Rejection) (handed : List String) {last : Verdict} {g : G}
      (made : offers width text attempts start = (handed, g))
      (all : handed.length = attempts.length) (refused : refusals.length = attempts.length) :
      GoesThrough width text rejected attempts start (handed.map .ofText ++ [.ofText text])
        (refusals.map .rejected ++ [last]) (lastResult (rejected + attempts.length) last) g

/-- An attempt can be made ready, whatever is drawn. -/
def Attempt.Ready (attempt : Attempt) (G : Type) [Random.Generator G] (width : PointerWidth)
    (text : String) : Prop :=
  ∀ g : G, ∃ handed g', attempt.offer width text g = (.ok handed, g')

theorem Attempt.ready_of_suits {attempt : Attempt} {text : String}
    (suits : attempt.config.Suits text) (width : PointerWidth) : attempt.Ready G width text := by
  intro g
  cases active : attempt.config.isActive with
  | false => exact ⟨text, g, by simp [offer, Config.randomize, active]⟩
  | true =>
      obtain ⟨valid, listing, parsed⟩ := suits active
      simp only [offer, Config.randomize, active, valid, parsed]
      exact ⟨_, _, rfl⟩

section Passage

variable {width : PointerWidth} {text : String} {attempt : Attempt} {rest : List Attempt}

theorem offers_cons_of_ok {handed : String} {later : List String} {start g g' : G}
    (offered : attempt.offer width text start = (.ok handed, g))
    (made : offers width text rest g = (later, g')) :
    offers width text (attempt :: rest) start = (handed :: later, g') := by
  simp only [offers, offered, made]

theorem GoesThrough.refused {handed : String} {start g g' : G} {rejected : Nat}
    {seen : List Content} {verdicts : List Verdict} {result : Except Failure Report}
    (offered : attempt.offer width text start = (.ok handed, g)) (rejection : Rejection)
    (later : GoesThrough width text (rejected + 1) rest g seen verdicts result g') :
    GoesThrough width text rejected (attempt :: rest) start (.ofText handed :: seen)
      (.rejected rejection :: verdicts) result g' := by
  cases later with
  | accepted refusals later scheduled made all =>
      rw [Nat.add_right_comm rejected 1]
      exact .accepted (rejection :: refusals) (handed :: later) scheduled
        (offers_cons_of_ok offered made) (congrArg (· + 1) all)
  | notReady refusals later scheduled made all fails =>
      exact .notReady (rejection :: refusals) (handed :: later) scheduled
        (offers_cons_of_ok offered made) (congrArg (· + 1) all) fails
  | exhausted refusals later made all refused =>
      rw [Nat.add_right_comm]
      exact .exhausted (rejection :: refusals) (handed :: later) (offers_cons_of_ok offered made)
        (congrArg (· + 1) all) (congrArg (· + 1) refused)

theorem course_goesThrough (assemble : Assembler σ) (width : PointerWidth) (text : String)
    (attempts : List Attempt) (rejected : Nat) (g : G) (s : σ) :
    let ended := course assemble width text attempts rejected g s
    GoesThrough width text rejected attempts g (ended.calls.map (·.seen))
      (ended.calls.map (·.verdict)) ended.result ended.generator := by
  fun_induction course assemble width text attempts rejected g s with
  | case1 rejected g s verdict left after called =>
      exact .exhausted [] [] rfl rfl rfl
  | case2 attempt rest rejected g s failure g' offered =>
      exact .notReady [] [] rfl rfl rfl offered
  | case3 attempt rest rejected g s handed g' offered left after called =>
      exact .accepted [] [handed] rfl (offers_cons_of_ok offered rfl) rfl
  | case4 attempt rest rejected g s handed g' offered rejection left after called ih =>
      exact ih.refused offered rejection

end Passage

end Retry

end AsmLayout
