import AsmLayout.Json.Value

/-! # The grammar of written values

A written value is a sequence of tokens, and a text is made of tokens with any spaces around them.
What stands at the front of such a text is the first character of the first token, once its spaces
are gone.
-/

namespace AsmLayout

namespace Json

/-- A piece of a text that no spaces may break. -/
abbrev Token := List Char

/-- Texts made of tokens with spaces anywhere between and around them. -/
inductive Spaced : List Token → List Char → Prop where
  | nil {spaces : List Char} (blank : ∀ c ∈ spaces, isSpace c = true) : Spaced [] spaces
  | cons {spaces token cs : List Char} {tokens : List Token}
      (blank : ∀ c ∈ spaces, isSpace c = true) (rest : Spaced tokens cs) :
      Spaced (token :: tokens) (spaces ++ (token ++ cs))

/-- A list of items with a comma in front of each of them, the first one excepted if so asked. -/
def listed (first : Bool) : List (List Token) → List Token
  | [] => []
  | item :: items => (if first then item else [','] :: item) ++ listed false items

/-- A member of an object: its key and the tokens of its value. -/
abbrev Member := String × List Token

def memberTokens (member : Member) : List Token :=
  (writeText member.1).toList :: [':'] :: member.2

def objectTokens (members : List Member) : List Token :=
  ['\x7b'] :: (listed true (members.map memberTokens) ++ [['\x7d']])

/-- How a value that is neither an array nor an object is written; of numbers, the natural ones. -/
inductive Written : Value → Token → Prop where
  | null : Written .null "null".toList
  | bool (b : Bool) : Written (.bool b) (toString b).toList
  | natural {n : Nat} (fits : n < naturalLimit) : Written (.number (.natural n)) (toString n).toList
  | text (s : String) : Written (.text s) (writeText s).toList

/-- The tokens of a value whose arrays and objects are at most so deep inside each other. -/
inductive IsValue : (depth : Nat) → List Token → Prop where
  | scalar {depth : Nat} {value : Value} {token : Token} (written : Written value token) :
      IsValue depth [token]
  | array {depth : Nat} {elements : List (List Token)}
      (inner : ∀ element ∈ elements, IsValue depth element) :
      IsValue (depth + 1) (['['] :: (listed true elements ++ [[']']]))
  | object {depth : Nat} {members : List Member}
      (inner : ∀ member ∈ members, IsValue depth member.2) :
      IsValue (depth + 1) (objectTokens members)

/-- Tokens that begin with a character out of which a value can begin. -/
def Begins (tokens : List Token) : Prop :=
  ∃ c token rest, tokens = (c :: token) :: rest ∧ isSpace c = false ∧ c ≠ ']'

/-- Tokens behind which a value is at its end. -/
def Closes (tokens : List Token) : Prop :=
  ∃ c rest, tokens = [c] :: rest ∧ c ∈ [',', ']', '\x7d']

theorem writeText_toList (s : String) :
    (writeText s).toList = '"' :: (s.toList.flatMap writeChar ++ ['"']) :=
  String.toList_ofList

theorem toString_toList_eq_cons (n : Nat) :
    ∃ d ds, (toString n).toList = d :: ds ∧ d.isDigit = true := by
  rw [Nat.toString_eq_ofList_toDigits, String.toList_ofList]
  cases spelled : Nat.toDigits 10 n with
  | nil => exact absurd spelled Nat.toDigits_ne_nil
  | cons d ds =>
      have member : d ∈ Nat.toDigits 10 n := by rw [spelled]; exact List.mem_cons_self ..
      exact ⟨d, ds, rfl, Nat.isDigit_of_mem_toDigits (by decide) (by decide) member⟩

theorem isSpace_of_isDigit {c : Char} (digit : c.isDigit = true) : isSpace c = false := by
  simp only [isSpace, Bool.or_eq_false_iff, beq_eq_false_iff_ne]
  refine ⟨⟨⟨?_, ?_⟩, ?_⟩, ?_⟩ <;>
  · rintro rfl
    exact absurd digit (by decide)

theorem Written.front {value : Value} {token : Token} (written : Written value token) :
    ∃ c letters, token = c :: letters ∧ isSpace c = false ∧ c ∉ ['[', ']', '\x7b'] := by
  cases written with
  | null => exact ⟨'n', _, rfl, by decide⟩
  | bool b => cases b <;> exact ⟨_, _, rfl, by decide⟩
  | natural fits =>
      obtain ⟨d, ds, spelled, digit⟩ := toString_toList_eq_cons _
      refine ⟨d, ds, spelled, isSpace_of_isDigit digit, ?_⟩
      intro bracket
      have noDigit : ['[', ']', '\x7b'].all (!·.isDigit) = true := by decide
      simpa [digit] using List.all_eq_true.mp noDigit d bracket
  | text s => exact ⟨'"', _, writeText_toList s, by decide⟩

theorem IsValue.begins {depth : Nat} {tokens : List Token} (value : IsValue depth tokens) :
    Begins tokens := by
  cases value with
  | scalar written =>
      obtain ⟨c, letters, rfl, solid, noBracket⟩ := written.front
      exact ⟨c, letters, [], rfl, solid, fun bracket => noBracket (by simp [bracket])⟩
  | array => exact ⟨'[', [], _, rfl, by decide, by decide⟩
  | object => exact ⟨'\x7b', [], _, rfl, by decide, by decide⟩

theorem closes_listed (items : List (List Token)) {close : Char} (brackets : close ∈ [']', '\x7d'])
    (more : List Token) : Closes (listed false items ++ [close] :: more) := by
  cases items with
  | nil => exact ⟨close, more, rfl, List.mem_cons_of_mem _ brackets⟩
  | cons item items => exact ⟨',', _, rfl, List.mem_cons_self ..⟩

theorem length_flatten_le {items : List (List Token)} {item : List Token} (member : item ∈ items)
    (first : Bool) : item.flatten.length ≤ (listed first items).flatten.length := by
  induction items generalizing first with
  | nil => exact absurd member List.not_mem_nil
  | cons other items ih =>
      rw [listed, List.flatten_append, List.length_append]
      rcases List.mem_cons.mp member with rfl | member
      · cases first with
        | true => exact Nat.le_add_right _ _
        | false => exact Nat.le_trans (Nat.le_succ _) (Nat.le_add_right _ _)
      · exact Nat.le_trans (ih member false) (Nat.le_add_left _ _)

namespace Spaced

variable {tokens : List Token} {cs : List Char}

theorem tight (token : Token) (spaced : Spaced tokens cs) :
    Spaced (token :: tokens) (token ++ cs) :=
  .cons (List.forall_mem_nil _) spaced

theorem flatten (tokens : List Token) : Spaced tokens tokens.flatten := by
  induction tokens with
  | nil => exact .nil (List.forall_mem_nil _)
  | cons token tokens ih => exact ih.tight token

theorem length_flatten_le (spaced : Spaced tokens cs) : tokens.flatten.length ≤ cs.length := by
  induction spaced with
  | nil blank => exact Nat.zero_le _
  | cons blank rest ih =>
      simp only [List.flatten_cons, List.length_append]
      omega

theorem skipSpaces_nil (spaced : Spaced [] cs) : skipSpaces cs = [] := by
  cases spaced with
  | nil blank =>
      have skipped : (cs ++ []).dropWhile isSpace = [] := List.dropWhile_append_of_pos blank
      rwa [List.append_nil] at skipped

theorem skipSpaces_cons {c : Char} {token : List Char} (solid : isSpace c = false)
    (spaced : Spaced ((c :: token) :: tokens) cs) :
    ∃ rest, skipSpaces cs = c :: (token ++ rest) ∧ Spaced tokens rest ∧
      token.length + rest.length < cs.length := by
  cases spaced with
  | @cons spaces _ rest _ blank spaced =>
      refine ⟨rest, ?_, spaced, ?_⟩
      · rw [skipSpaces, List.dropWhile_append_of_pos blank, List.cons_append,
          List.dropWhile_cons_of_neg (by simp [solid])]
      · simp only [List.length_append, List.length_cons]
        omega

end Spaced

end Json

end AsmLayout
