import AsmLayout.Host.Regex

/-! # Regular expressions of programs

They are written in the extended way, but a backslash keeps its meaning in brackets, no letter behind it
stands for a class, and every sign and bar needs something to stand for.
-/

namespace AsmLayout.Host.Awk

open Text (Octets)

/-- Why a regular expression makes no sense. -/
inductive PatternFault where
  | missingOperand
  | missingParenthesis
  | badClass
  /-- A start of lines is repeated. -/
  | repeatedStart
  | badInterval
  /-- There is nothing in front of an interval. -/
  | tooLarge
  deriving Repr, DecidableEq

def PatternFault.message : PatternFault → String
  | missingOperand => "missing operand"
  | missingParenthesis => "missing ')'"
  | badClass => "bad class -- [], [^] or ["
  | repeatedStart => "syntax error ^* or ^+"
  | badInterval => "bad interval expression"
  | tooLarge => "resource exhaustion -- regular expression too large"

namespace Pattern

/-- The number of up to so many octal digits at the front of a text, and what follows. -/
def octalAt : (digits : Nat) → (value : Nat) → Octets → Nat × Octets
  | 0, value, rest => (value, rest)
  | _, value, [] => (value, [])
  | digits + 1, value, c :: rest =>
    if '0' ≤ c && c ≤ '7' then octalAt digits (value * 8 + (c.toNat - '0'.toNat)) rest
    else (value, c :: rest)

/-- The character that a backslash and what follows it stand for, and what is left. -/
def escapeAt (rest : Octets) : Char × Octets :=
  match rest with
  | [] => ('\\', [])
  | c :: behind =>
    match c with
    | 'n' => ('\n', behind)
    | 't' => ('\t', behind)
    | 'f' => ('\x0c', behind)
    | 'b' => ('\x08', behind)
    | 'r' => ('\r', behind)
    | 'a' => ('\x07', behind)
    | 'v' => ('\x0b', behind)
    | c =>
      if '0' ≤ c && c ≤ '7' then
        let (n, behind) := octalAt 3 0 rest
        (Char.ofNat (n % 256), behind)
      else (c, behind)

/-- A character in brackets, and what follows it. -/
def bracketCharacter : Octets → Option (Char × Octets)
  | [] => none
  | '\\' :: rest => some (escapeAt rest)
  | c :: rest => some (c, rest)

def classNames : List String :=
  ["alnum", "alpha", "blank", "cntrl", "digit", "graph", "lower", "print", "punct", "space", "upper",
   "xdigit"]

/-- What stands in brackets, from behind the opening one on, and what follows the closing one. -/
def bracketItems : (fuel : Nat) → (first : Bool) → Octets →
    Except PatternFault (List BracketItem × Octets)
  | 0, _, _ | _, _, [] => .error .badClass
  | fuel + 1, first, ']' :: rest =>
    if first then do
      let (items, rest) ← bracketItems fuel false rest
      return (.range ']' ']' :: items, rest)
    else .ok ([], rest)
  | fuel + 1, _, '[' :: ':' :: rest => do
    let name := String.ofList (rest.takeWhile Char.isAlpha)
    match rest.drop name.length with
    | ':' :: ']' :: behind =>
      if !classNames.contains name then throw .badClass
      let (items, rest) ← bracketItems fuel false behind
      return (.named name :: items, rest)
    | _ =>
      let (items, rest) ← bracketItems fuel false (':' :: rest)
      return (.range '[' '[' :: items, rest)
  | fuel + 1, _, text => do
    match bracketCharacter text with
    | none => throw .badClass
    | some (low, rest) =>
      match rest with
      | '-' :: ']' :: _ =>
        let (items, rest) ← bracketItems fuel false rest
        return (.range low low :: items, rest)
      | '-' :: more =>
        match bracketCharacter more with
        | none => throw .badClass
        | some (high, rest) =>
          let (items, rest) ← bracketItems fuel false rest
          return ((if low ≤ high then .range low high else .range high low) :: items, rest)
      | rest =>
        let (items, rest) ← bracketItems fuel false rest
        return (.range low low :: items, rest)

/-- The bounds in braces, from behind the opening one on, and what follows, if there are bounds. -/
def boundsAt? (text : Octets) : Option ((Nat × Option Nat) × Octets) :=
  let digits := text.takeWhile Char.isDigit
  let low := (String.ofList digits).toNat?
  match text.drop digits.length with
  | '\x7d' :: rest => low.map fun n => ((n, some n), rest)
  | ',' :: rest =>
    let more := rest.takeWhile Char.isDigit
    match rest.drop more.length with
    | '\x7d' :: behind =>
      if digits.isEmpty && more.isEmpty then none
      else some ((low.getD 0, (String.ofList more).toNat?), behind)
    | _ => none
  | _ => none

/-- A regular expression with the signs behind it that repeat it, which the start of lines cannot be. -/
def repetitions (isStart : Bool) : (fuel : Nat) → Regex → Octets → Except PatternFault (Regex × Octets)
  | 0, inner, rest => .ok (inner, rest)
  | fuel + 1, inner, text =>
    match text with
    | '*' :: rest =>
      if isStart then .error .repeatedStart else repetitions isStart fuel (.repeated inner 0 none) rest
    | '+' :: rest =>
      if isStart then .error .repeatedStart else repetitions isStart fuel (.repeated inner 1 none) rest
    | '?' :: rest => repetitions isStart fuel (.repeated inner 0 (some 1)) rest
    | '\x7b' :: rest =>
      match boundsAt? rest with
      | some ((least, most), behind) =>
        if most.any (· < least) then .error .badInterval
        else repetitions isStart fuel (.repeated inner least most) behind
      | none => .ok (inner, text)
    | _ => .ok (inner, text)

/-- What reads a regular expression: it stands in front of a text. -/
abbrev Reading := StateT Octets (Except PatternFault)

/-- A part without a sign that repeats it. `whole` reads what stands in parentheses. -/
def single (whole : Reading Regex) (c : Char) (rest : Octets) : Reading Regex := do
  match c with
  | '(' =>
    set rest
    let inner ← whole
    match ← get with
    | ')' :: rest =>
      set rest
      return inner
    | _ => throw .missingParenthesis
  | '[' =>
    let (negated, inside) : Bool × Octets := match rest with
      | '^' :: rest => (true, rest)
      | rest => (false, rest)
    let (items, rest) ← bracketItems (inside.length + 1) true inside
    set rest
    return .among negated items
  | '\\' =>
    let (c, rest) := escapeAt rest
    set rest
    return .exactly c
  | '.' =>
    set rest
    return .any
  | '^' =>
    set rest
    return .lineStart
  | '$' =>
    set rest
    return .lineEnd
  | c =>
    set rest
    if c = '*' || c = '+' || c = '?' then throw .missingOperand
    if c = '\x7b' && (boundsAt? rest).isSome then throw .tooLarge
    return .exactly c

/-- Parts one after the other, up to a bar or a parenthesis. -/
def parts (whole : Reading Regex) (inside : Bool) : (fuel : Nat) → Reading (List Regex)
  | 0 => return []
  | fuel + 1 => do
    match ← get with
    | [] => return []
    | c :: rest =>
      if c = '|' || (c = ')' && inside) then return []
      let inner ← single whole c rest
      let (found, rest) ← repetitions (c = '^') (rest.length + 1) inner (← get)
      set rest
      return found :: (← parts whole inside fuel)

/-- Alternatives, up to a parenthesis or the end. -/
def alternatives (whole : Reading Regex) (inside : Bool) : (fuel : Nat) → Reading Regex
  | 0 => throw .missingOperand
  | fuel + 1 => do
    let found ← parts whole inside ((← get).length + 1)
    match found with
    | [] => throw (if inside && (← get).isEmpty then .missingParenthesis else .missingOperand)
    | first :: others =>
      let joined := others.foldl (fun front part => Regex.sequence front part) first
      match ← get with
      | '|' :: rest =>
        set rest
        return .either joined (← alternatives whole inside fuel)
      | _ => return joined

/-- What stands in so many parentheses. -/
def inParentheses : (fuel : Nat) → (inside : Bool) → Reading Regex
  | 0, _ => throw .missingParenthesis
  | fuel + 1, inside => do
    alternatives (inParentheses fuel true) inside ((← get).length + 1)

/-- Read a regular expression. The empty one fits everywhere. -/
def read (text : Octets) : Except PatternFault Regex :=
  if text.isEmpty then .ok .nothing
  else (inParentheses (text.length + 1) false text).map (·.1)

end Pattern

end AsmLayout.Host.Awk
