import AsmLayout.Proofs.Json.Number
import AsmLayout.Proofs.Json.Quoted
import AsmLayout.Proofs.Json.Token

/-! # Laws of values in JSON

A reader takes the tokens of a value off the front of every text in which they stand, however it is
spaced. The members of an object are taken in turn, each by the step that its key asks for.
-/

namespace AsmLayout

namespace Json

/-- In front of closing tokens, the reader takes `tokens` off any text and gives `a`. -/
def Reads {α : Type} (reader : Reader α) (tokens : List Token) (a : α) : Prop :=
  ∀ ⦃more : List Token⦄ ⦃cs : List Char⦄, Closes more → Spaced (tokens ++ more) cs →
    ∃ rest, reader cs = .ok (a, rest) ∧ Spaced more rest ∧ rest.length < cs.length

/-- The steps of an object's members lead from one state to another. -/
inductive Takes {σ : Type} (step : σ → String → Reader σ) : σ → List Member → σ → Prop where
  | nil {state : σ} : Takes step state [] state
  | cons {state next last : σ} {key : String} {value : List Token} {members : List Member}
      (read : Reads (step state key) ([':'] :: value) next) (rest : Takes step next members last) :
      Takes step state ((key, value) :: members) last

theorem expect_append (letters : List Char) (value : Value) (rest : List Char) :
    expect letters value (letters ++ rest) = .ok (value, rest) := by
  induction letters with
  | nil => rfl
  | cons letter letters ih => exact (if_pos rfl).trans ih

theorem colon_spaced {tokens : List Token} {cs : List Char} (spaced : Spaced ([':'] :: tokens) cs) :
    ∃ rest, colon cs = .ok rest ∧ Spaced tokens rest ∧ rest.length ≤ cs.length := by
  obtain ⟨rest, skipped, spaced', shorter⟩ := spaced.skipSpaces_cons (by decide)
  exact ⟨rest, by simp only [colon, skipped, List.nil_append], spaced', by omega⟩

theorem endsNumber_of_closes {tokens : List Token} {cs : List Char} (closes : Closes tokens)
    (spaced : Spaced tokens cs) : EndsNumber cs := by
  obtain ⟨c, rest, rfl, closing⟩ := closes
  have ends : ∀ d ∈ [' ', '\t', '\n', '\r', ',', ']', '\x7d'],
      isDigit d = false ∧ (d == '.') = false ∧ isExponentLetter d = false := by
    have all : [' ', '\t', '\n', '\r', ',', ']', '\x7d'].all
        (fun d => !isDigit d && !(d == '.') && !isExponentLetter d) = true := by decide
    intro d listed
    simpa only [Bool.and_eq_true, Bool.not_eq_true', and_assoc] using
      List.all_eq_true.mp all d listed
  cases spaced with
  | @cons spaces _ _ _ blank _ =>
      intro d first
      cases spaces with
      | nil =>
          cases first
          exact ends c (List.mem_append_right [' ', '\t', '\n', '\r'] closing)
      | cons space spaces =>
          cases first
          have blank := blank d (List.mem_cons_self ..)
          simp only [isSpace, Bool.or_eq_true, beq_iff_eq] at blank
          refine ends d ?_
          rcases blank with ((rfl | rfl) | rfl) | rfl <;> decide

theorem Reads.of_token {α : Type} {reader : Reader α} {c : Char} {letters : List Char} {a : α}
    (solid : isSpace c = false)
    (read : ∀ {cs rest : List Char}, EndsNumber rest → skipSpaces cs = c :: (letters ++ rest) →
      reader cs = .ok (a, rest)) : Reads reader [c :: letters] a := by
  intro more cs closes spaced
  obtain ⟨rest, skipped, spaced', shorter⟩ := Spaced.skipSpaces_cons solid spaced
  exact ⟨rest, read (endsNumber_of_closes closes spaced') skipped, spaced', by omega⟩

theorem valueWithin_of_digit {room fuel : Nat} {d : Char} {cs rest : List Char}
    (digit : d.isDigit = true) (skipped : skipSpaces cs = d :: rest) :
    valueWithin (.kept room) (fuel + 1) cs =
      (number (d :: rest)).map fun (n, rest) => (.number n, rest) := by
  rw [← isDigit_eq] at digit
  simp only [valueWithin, skipped]
  split
  case h_8 c rest' _ _ _ _ _ _ spelled =>
    obtain ⟨rfl, rfl⟩ := List.cons.inj spelled
    rw [if_pos (by rw [digit, Bool.or_true]), if_neg nofun]
  case h_1 spelled => exact absurd spelled (List.cons_ne_nil _ _)
  all_goals
    next spelled =>
      rw [(List.cons.inj spelled).1] at digit
      exact absurd digit (by decide)

theorem reads_written {value : Value} {token : Token} (written : Written value token)
    (room fuel : Nat) : Reads (valueWithin (.kept room) (fuel + 1)) [token] value := by
  cases written with
  | null =>
      refine Reads.of_token (c := 'n') (by decide) ?_
      intro cs rest _ skipped
      simp only [valueWithin, skipped]
      exact expect_append ['u', 'l', 'l'] .null rest
  | bool b =>
      cases b with
      | true =>
          refine Reads.of_token (by decide) ?_
          intro cs rest _ skipped
          simp only [valueWithin, skipped]
          exact expect_append ['r', 'u', 'e'] (.bool true) rest
      | false =>
          refine Reads.of_token (by decide) ?_
          intro cs rest _ skipped
          simp only [valueWithin, skipped]
          exact expect_append ['a', 'l', 's', 'e'] (.bool false) rest
  | @natural n fits =>
      obtain ⟨d, ds, spelled, digit⟩ := toString_toList_eq_cons n
      rw [spelled]
      refine Reads.of_token (isSpace_of_isDigit digit) ?_
      intro cs rest ends skipped
      have read := number_toString fits ends
      rw [spelled, List.cons_append] at read
      rw [valueWithin_of_digit digit skipped, read]
      rfl
  | text s =>
      rw [writeText_toList]
      refine Reads.of_token (by decide) ?_
      intro cs rest _ skipped
      rw [List.append_assoc, List.cons_append, List.nil_append] at skipped
      simp only [valueWithin, skipped, quoted_flatMap_writeChar]
      exact congrArg (fun text => Except.ok (Value.text text, rest)) (String.ofList_toList (s := s))

theorem elements_next {σ : Type} (step : σ → Reader σ) (state : σ) {item tokens : List Token}
    (begins : Begins item) {first : Bool} {cs : List Char} (fuel : Nat)
    (spaced : Spaced ((if first then item else [','] :: item) ++ tokens) cs) :
    ∃ text, Spaced (item ++ tokens) text ∧ text.length ≤ cs.length ∧
      elements step (fuel + 1) first state cs = (do
        let (state, cs) ← step state text
        elements step fuel false state cs) := by
  cases first with
  | true =>
      obtain ⟨c, token, rest, rfl, solid, noBracket⟩ := begins
      obtain ⟨cs', skipped, spaced', shorter⟩ := Spaced.skipSpaces_cons solid spaced
      refine ⟨c :: (token ++ cs'), spaced'.tight (c :: token), ?_, ?_⟩
      · rw [List.length_cons, List.length_append]
        omega
      · simp only [elements, skipped, if_true]
  | false =>
      obtain ⟨cs', skipped, spaced', shorter⟩ := Spaced.skipSpaces_cons (by decide) spaced
      refine ⟨cs', spaced', by omega, ?_⟩
      simp only [elements, skipped, List.nil_append]
      rfl

/-- Elements that each leave the state as it is are read up to the bracket. -/
theorem elements_reads {σ : Type} (step : σ → Reader σ) {state : σ} {items : List (List Token)}
    (each : ∀ item ∈ items, Begins item ∧ Reads (step state) item state) {more : List Token}
    {first : Bool} {fuel : Nat} {cs : List Char}
    (spaced : Spaced (listed first items ++ [']'] :: more) cs) (enough : cs.length < fuel) :
    ∃ rest, elements step fuel first state cs = .ok (state, rest) ∧ Spaced more rest ∧
      rest.length < cs.length := by
  induction items generalizing first fuel cs with
  | nil =>
      obtain ⟨rest, skipped, spaced', shorter⟩ := Spaced.skipSpaces_cons (by decide) spaced
      obtain ⟨fuel, rfl⟩ := Nat.exists_eq_add_one_of_ne_zero (Nat.ne_zero_of_lt enough)
      refine ⟨rest, ?_, spaced', by omega⟩
      simp only [elements, skipped, List.nil_append]
  | cons item items ih =>
      obtain ⟨begins, reads⟩ := each item (List.mem_cons_self ..)
      have others := fun other member => each other (List.mem_cons_of_mem item member)
      obtain ⟨fuel, rfl⟩ := Nat.exists_eq_add_one_of_ne_zero (Nat.ne_zero_of_lt enough)
      rw [listed, List.append_assoc] at spaced
      obtain ⟨text, spaced, short, next⟩ := elements_next step state begins fuel spaced
      obtain ⟨rest, read, spaced, shorter⟩ := reads (closes_listed items (by decide) more) spaced
      obtain ⟨last, readOthers, spaced, shorter'⟩ := ih others spaced (show rest.length < fuel by omega)
      refine ⟨last, ?_, spaced, by omega⟩
      rw [next, read]
      exact readOthers

theorem members_true {σ : Type} (reading : Reading) (step : σ → String → Reader σ) (state : σ)
    (fuel : Nat) {cs rest : List Char} (quote : skipSpaces cs = '"' :: rest) :
    members reading step (fuel + 1) true state cs = (do
      let (key, cs) ← quoted reading rest
      let (state, cs) ← step state (String.ofList key) cs
      members reading step fuel false state cs) := by
  simp only [members, quote]
  rfl

theorem members_false {σ : Type} (reading : Reading) (step : σ → String → Reader σ) (state : σ)
    (fuel : Nat) {cs text rest : List Char} (comma : skipSpaces cs = ',' :: text)
    (quote : skipSpaces text = '"' :: rest) :
    members reading step (fuel + 1) false state cs =
      members reading step (fuel + 1) true state text := by
  rw [members_true reading step state fuel quote]
  simp [members, comma, quote]

theorem members_next {σ : Type} {reading : Reading} (step : σ → String → Reader σ) (state : σ)
    (key : String) {value tokens : List Token} {first : Bool} {cs : List Char} (fuel : Nat)
    (spaced : Spaced ((if first then memberTokens (key, value) else
      [','] :: memberTokens (key, value)) ++ tokens) cs) :
    ∃ text, Spaced ([':'] :: value ++ tokens) text ∧ text.length ≤ cs.length ∧
      members reading step (fuel + 1) first state cs = (do
        let (state, cs) ← step state key text
        members reading step fuel false state cs) := by
  have keyRead {text : List Char} (spaced : Spaced (memberTokens (key, value) ++ tokens) text) :
      ∃ rest behind, skipSpaces text = '"' :: rest ∧
        quoted reading rest = .ok (key.toList, behind) ∧
        Spaced ([':'] :: value ++ tokens) behind ∧ behind.length ≤ text.length := by
    rw [memberTokens, writeText_toList] at spaced
    obtain ⟨behind, skipped, spaced', shorter⟩ := Spaced.skipSpaces_cons (by decide) spaced
    refine ⟨_, behind, skipped, ?_, spaced', by omega⟩
    rw [List.append_assoc]
    exact quoted_flatMap_writeChar reading key.toList behind
  cases first with
  | true =>
      obtain ⟨rest, behind, skipped, read, spaced', shorter⟩ := keyRead spaced
      refine ⟨behind, spaced', shorter, ?_⟩
      simp only [members_true reading step state fuel skipped, read, bind, Except.bind,
        String.ofList_toList]
  | false =>
      obtain ⟨cs', comma, spaced', shorter⟩ := Spaced.skipSpaces_cons (by decide) spaced
      obtain ⟨rest, behind, skipped, read, spaced', shorter'⟩ := keyRead spaced'
      refine ⟨behind, spaced', by omega, ?_⟩
      rw [List.nil_append] at comma
      simp only [members_false reading step state fuel comma skipped,
        members_true reading step state fuel skipped, read, bind, Except.bind,
        String.ofList_toList]

/-- Members are read up to the brace, each by the step that its key asks for. -/
theorem members_reads {σ : Type} (reading : Reading) {step : σ → String → Reader σ}
    {state last : σ} {items : List Member} (takes : Takes step state items last)
    {more : List Token} {first : Bool} {fuel : Nat} {cs : List Char}
    (spaced : Spaced (listed first (items.map memberTokens) ++ ['}'] :: more) cs)
    (enough : cs.length < fuel) :
    ∃ rest, members reading step fuel first state cs = .ok (last, rest) ∧ Spaced more rest ∧
      rest.length < cs.length := by
  induction takes generalizing first fuel cs with
  | nil =>
      obtain ⟨rest, skipped, spaced', shorter⟩ := Spaced.skipSpaces_cons (by decide) spaced
      obtain ⟨fuel, rfl⟩ := Nat.exists_eq_add_one_of_ne_zero (Nat.ne_zero_of_lt enough)
      refine ⟨rest, ?_, spaced', by omega⟩
      simp only [members, skipped, List.nil_append]
  | @cons state next last key value items reads takes ih =>
      obtain ⟨fuel, rfl⟩ := Nat.exists_eq_add_one_of_ne_zero (Nat.ne_zero_of_lt enough)
      rw [List.map_cons, listed, List.append_assoc] at spaced
      obtain ⟨text, spaced, short, next⟩ := members_next step state key fuel spaced
      obtain ⟨rest, read, spaced, shorter⟩ :=
        reads (closes_listed (items.map memberTokens) (by decide) more) spaced
      obtain ⟨last, readOthers, spaced, shorter'⟩ := ih spaced (show rest.length < fuel by omega)
      refine ⟨last, ?_, spaced, by omega⟩
      rw [next, read]
      exact readOthers

theorem Reads.map {α β : Type} {reader : Reader α} {tokens : List Token} {a : α}
    (reads : Reads reader tokens a) (f : α → β) :
    Reads (fun cs => (reader cs).map fun (a, rest) => (f a, rest)) tokens (f a) := by
  intro more cs closes spaced
  obtain ⟨rest, read, spaced', shorter⟩ := reads closes spaced
  exact ⟨rest, by simp only [read, Except.map], spaced', shorter⟩

theorem Reads.behind_colon {α : Type} {reader : Reader α} {tokens : List Token} {a : α}
    (reads : Reads reader tokens a) :
    Reads (fun cs => do reader (← colon cs)) ([':'] :: tokens) a := by
  intro more cs closes spaced
  obtain ⟨text, skipped, spaced', shorter⟩ := colon_spaced spaced
  obtain ⟨rest, read, spaced', shorter'⟩ := reads closes spaced'
  exact ⟨rest, by simp only [skipped, bind, Except.bind, read], spaced', by omega⟩

theorem Reads.member {α σ : Type} {reader : Reader α} {tokens : List Token} {a : α}
    (reads : Reads reader tokens a) (put : α → σ) :
    Reads (fun cs => do
      let (a, rest) ← reader (← colon cs)
      return (put a, rest)) ([':'] :: tokens) (put a) := by
  intro more cs closes spaced
  obtain ⟨rest, read, spaced', shorter⟩ := (reads.map put).behind_colon closes spaced
  refine ⟨rest, Eq.trans ?_ read, spaced', shorter⟩
  cases colon cs with
  | error problem => rfl
  | ok text =>
      simp only [bind, Except.bind]
      cases reader text <;> rfl

theorem Takes.of_reads {σ : Type} (step : σ → String → Reader σ) {state : σ} {items : List Member}
    (each : ∀ item ∈ items, Reads (step state item.1) ([':'] :: item.2) state) :
    Takes step state items state := by
  induction items with
  | nil => exact .nil
  | cons item items ih =>
      exact .cons (each item (List.mem_cons_self ..))
        (ih fun other member => each other (List.mem_cons_of_mem item member))

theorem valueWithin_bracket {room fuel : Nat} {cs rest : List Char}
    (skipped : skipSpaces cs = '[' :: rest) :
    valueWithin (.kept (room + 1)) (fuel + 1) cs = (do
      let ((), rest) ← elements
        (fun _ cs => (valueWithin (.kept room) fuel cs).map fun (_, cs) => ((), cs))
        (rest.length + 1) true () rest
      return (.array, rest)) := by
  simp only [valueWithin, skipped]
  rfl

theorem valueWithin_brace {room fuel : Nat} {cs rest : List Char}
    (skipped : skipSpaces cs = '\x7b' :: rest) :
    valueWithin (.kept (room + 1)) (fuel + 1) cs = (do
      let ((), rest) ← members (.kept room)
        (fun _ _ cs => do
          (valueWithin (.kept room) fuel (← colon cs)).map fun (_, cs) => ((), cs))
        (rest.length + 1) true () rest
      return (.object, rest)) := by
  simp only [valueWithin, skipped]
  rfl

theorem reads_array {room fuel : Nat} {elements : List (List Token)}
    (each : ∀ element ∈ elements, Begins element ∧
      Reads (fun cs => (valueWithin (.kept room) fuel cs).map fun (_, cs) => ((), cs)) element ()) :
    Reads (valueWithin (.kept (room + 1)) (fuel + 1)) (['['] :: (listed true elements ++ [[']']]))
      .array := by
  intro more cs closes spaced
  rw [List.cons_append, List.append_assoc] at spaced
  obtain ⟨text, skipped, spaced', shorter⟩ := spaced.skipSpaces_cons (by decide)
  obtain ⟨rest, read, spaced', shorter'⟩ :=
    elements_reads (fun _ => _) each spaced' (Nat.lt_succ_self _)
  refine ⟨rest, ?_, spaced', by omega⟩
  rw [List.nil_append] at skipped
  rw [valueWithin_bracket skipped, read]
  rfl

theorem reads_object {room fuel : Nat} {members : List Member}
    (each : ∀ member ∈ members, Reads (fun cs => do
        (valueWithin (.kept room) fuel (← colon cs)).map fun (_, cs) => ((), cs))
      ([':'] :: member.2) ()) :
    Reads (valueWithin (.kept (room + 1)) (fuel + 1)) (objectTokens members) .object := by
  intro more cs closes spaced
  rw [objectTokens, List.cons_append, List.append_assoc] at spaced
  obtain ⟨text, skipped, spaced', shorter⟩ := spaced.skipSpaces_cons (by decide)
  obtain ⟨rest, read, spaced', shorter'⟩ :=
    members_reads _ (Takes.of_reads (fun _ _ => _) each) spaced' (Nat.lt_succ_self _)
  refine ⟨rest, ?_, spaced', by omega⟩
  rw [List.nil_append] at skipped
  rw [valueWithin_brace skipped, read]
  rfl

/-- A value is read as the same value wherever there is room for what is inside it. -/
theorem exists_reads_valueWithin {depth : Nat} {tokens : List Token}
    (value : IsValue depth tokens) :
    ∃ found, ∀ room fuel, depth ≤ room → tokens.flatten.length < fuel →
      Reads (valueWithin (.kept room) fuel) tokens found := by
  induction value with
  | @scalar _ found _ written =>
      refine ⟨found, fun room fuel _ enough => ?_⟩
      obtain ⟨fuel, rfl⟩ := Nat.exists_eq_add_one_of_ne_zero (Nat.ne_zero_of_lt enough)
      exact reads_written written room fuel
  | @array depth elements inner ih =>
      refine ⟨.array, fun room fuel roomy enough => ?_⟩
      obtain ⟨fuel, rfl⟩ := Nat.exists_eq_add_one_of_ne_zero (Nat.ne_zero_of_lt enough)
      obtain ⟨room, rfl⟩ := Nat.exists_eq_add_of_le' (Nat.le_of_add_left_le roomy)
      refine reads_array fun element member => ⟨(inner element member).begins, ?_⟩
      obtain ⟨found, reads⟩ := ih element member
      have shorter := length_flatten_le member true
      simp only [List.flatten_cons, List.flatten_append, List.length_append,
        List.length_singleton] at enough
      exact (reads room fuel (Nat.le_of_succ_le_succ roomy) (by omega)).map fun _ => ()
  | @object depth members inner ih =>
      refine ⟨.object, fun room fuel roomy enough => ?_⟩
      obtain ⟨fuel, rfl⟩ := Nat.exists_eq_add_one_of_ne_zero (Nat.ne_zero_of_lt enough)
      obtain ⟨room, rfl⟩ := Nat.exists_eq_add_of_le' (Nat.le_of_add_left_le roomy)
      refine reads_object fun member isMember => ?_
      obtain ⟨found, reads⟩ := ih member isMember
      have shorter := length_flatten_le (List.mem_map_of_mem (f := memberTokens) isMember) true
      simp only [objectTokens, memberTokens, List.flatten_cons, List.flatten_append,
        List.length_append, List.length_singleton] at enough shorter
      exact Reads.behind_colon
        ((reads room fuel (Nat.le_of_succ_le_succ roomy) (by omega)).map fun _ => ())

/-- The fuel of `value` is enough for whatever stands in the text. -/
theorem exists_reads_value {depth room : Nat} {tokens : List Token} (value : IsValue depth tokens)
    (roomy : depth ≤ room) : ∃ found, Reads (Json.value (.kept room)) tokens found := by
  obtain ⟨found, reads⟩ := exists_reads_valueWithin value
  refine ⟨found, ?_⟩
  intro more cs closes spaced
  have short := spaced.length_flatten_le
  rw [List.flatten_append, List.length_append] at short
  exact reads room (cs.length + 1) roomy (by omega) closes spaced

theorem reads_value_written {value : Value} {token : Token} (written : Written value token)
    (room : Nat) : Reads (Json.value (.kept room)) [token] value :=
  fun _ cs closes spaced => reads_written written room cs.length closes spaced

theorem reads_scalar {α : Type} {pick : Value → Option α} {value : Value} {token : Token} {a : α}
    (written : Written value token) (meaning : pick value = some a) :
    Reads (scalar pick) [token] a := by
  intro more cs closes spaced
  obtain ⟨c, letters, rfl, solid, noBracket⟩ := written.front
  obtain ⟨behind, skipped, spaced', short⟩ := Spaced.skipSpaces_cons solid spaced
  have unspaced : Spaced ([c :: letters] ++ more) (skipSpaces cs) := by
    rw [skipped]
    exact spaced'.tight (c :: letters)
  obtain ⟨rest, read, spaced'', shorter⟩ :=
    reads_written written 127 (skipSpaces cs).length closes unspaced
  rw [skipped, List.length_cons, List.length_append] at shorter
  have front {d : Char} {ds : List Char} (spelled : skipSpaces cs = d :: ds) :
      d ∉ ['[', ']', '\x7b'] := by
    rwa [← (List.cons.inj (skipped.symm.trans spelled)).1]
  refine ⟨rest, ?_, spaced'', by omega⟩
  unfold scalar
  split
  next bracket => exact absurd (front bracket) (by decide)
  next brace => exact absurd (front brace) (by decide)
  next =>
    simp only [Json.value, document, read, bind, Except.bind, meaning]
    rfl

theorem object_reads {σ : Type} {step : σ → String → Reader σ} {start last : σ}
    {items : List Member} (takes : Takes step start items last) {cs : List Char}
    (spaced : Spaced (objectTokens items) cs) :
    ∃ rest, object step start cs = .ok (last, rest) ∧ skipSpaces rest = [] := by
  obtain ⟨text, skipped, spaced', -⟩ := Spaced.skipSpaces_cons (by decide) spaced
  obtain ⟨rest, read, spaced'', -⟩ :=
    members_reads document takes spaced' (Nat.lt_succ_self _)
  rw [List.nil_append] at skipped
  refine ⟨rest, ?_, spaced''.skipSpaces_nil⟩
  simp only [object, skipped]
  exact read

end Json

end AsmLayout
