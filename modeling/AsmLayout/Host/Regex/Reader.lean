import AsmLayout.Host.Regex
import AsmLayout.Host.Shell.Arithmetic

/-! # Regular expressions as they are written

There are two ways to write them. In the extended one parentheses, braces and some signs have a meaning by
themselves, in the basic one with a backslash in front.
-/

namespace AsmLayout.Host.Regex

open Text (Octets)

/-- How a regular expression is written. -/
structure Style where
  extended : Bool := false
  /-- A sign that repeats nothing is no mistake. -/
  lenient : Bool := false
  /-- Some letters behind a backslash stand for blanks. -/
  escapes : Bool := false
  deriving Repr, DecidableEq

/-- The names of the classes of characters. -/
def classNames : List String :=
  ["alnum", "alpha", "blank", "cntrl", "digit", "graph", "lower", "print", "punct", "space", "upper",
   "xdigit"]

/-- What is told of brackets that are not closed. -/
def unmatchedBracket : String :=
  "Unmatched [, [^, [:, [., or [="

def nothingRepeated : String :=
  "Invalid preceding regular expression"

/-- What stands in brackets, from behind the opening one on, and what follows. -/
def bracket : (fuel : Nat) → (first : Bool) → Octets →
    Except String (List BracketItem × Octets)
  | 0, _, _ | _, _, [] => .error unmatchedBracket
  | fuel + 1, first, ']' :: rest =>
    if first then do
      let (items, rest) ← bracket fuel false rest
      return (.range ']' ']' :: items, rest)
    else .ok ([], rest)
  | fuel + 1, _, '[' :: ':' :: rest => do
    let name := String.ofList (rest.takeWhile Char.isAlpha)
    match rest.drop name.length with
    | ':' :: ']' :: rest =>
      if !classNames.contains name then throw "Invalid character class name"
      let (items, rest) ← bracket fuel false rest
      return (.named name :: items, rest)
    | _ => throw unmatchedBracket
  | fuel + 1, _, '[' :: '.' :: c :: '.' :: ']' :: rest
  | fuel + 1, _, '[' :: '=' :: c :: '=' :: ']' :: rest => do
    let (items, rest) ← bracket fuel false rest
    return (.range c c :: items, rest)
  | fuel + 1, _, c :: '-' :: d :: rest => do
    if d = ']' then
      let (items, rest) ← bracket fuel false ('-' :: d :: rest)
      return (.range c c :: items, rest)
    if d < c then throw "Invalid range end"
    let (items, rest) ← bracket fuel false rest
    return (.range c d :: items, rest)
  | fuel + 1, _, c :: rest => do
    let (items, rest) ← bracket fuel false rest
    return (.range c c :: items, rest)

/-- A bracket expression, from behind its opening bracket on. -/
def brackets (text : Octets) : Except String (Regex × Octets) := do
  let (negated, inside) : Bool × Octets := match text with
    | '^' :: rest => (true, rest)
    | text => (false, text)
  let (items, rest) ← bracket (inside.length + 1) true inside
  return (.among negated items, rest)

/-- The bounds in braces, from behind the opening one on, and what follows the closing one. -/
def bounds (extended : Bool) (text : Octets) :
    Except String ((Nat × Option Nat) × Octets) := do
  let (low, rest) := Arithmetic.digits 10 text
  let hasLow := rest.length < text.length
  let (most, rest) : Option Nat × Octets := match rest with
    | ',' :: behind =>
      let (high, rest) := Arithmetic.digits 10 behind
      if rest.length < behind.length then (some high, rest) else (none, rest)
    | rest => (some low, rest)
  let closed? : Option Octets := match extended, rest with
    | true, '\x7d' :: rest => some rest
    | false, '\\' :: '\x7d' :: rest => some rest
    | _, _ => none
  match closed? with
  | none => throw (if rest.isEmpty then "Unmatched \\\x7b" else "Invalid content of \\\x7b\\\x7d")
  | some rest =>
    let wrong := match most with
      | some high => high < low
      | none => false
    if wrong || (!hasLow && most == some 0) then throw "Invalid content of \\\x7b\\\x7d"
    return ((low, most), rest)

/-- A reader of a regular expression: what is left, and how many groups have been opened. -/
structure Source where
  rest : Octets
  groups : Nat := 0
  /-- The groups that are closed. -/
  closed : List Nat := []

/-- What reads a part of a regular expression. -/
abbrev Reading := StateT Source (Except String)

/-- The signs that start a part with a meaning. -/
inductive Sign where
  | opening
  | closing
  | bar
  | star
  | plus
  | question
  | brace
  deriving Repr, DecidableEq

/-- The sign at the front of a text, and what follows it. -/
def signAt (extended : Bool) : Octets → Option (Sign × Octets)
  | '*' :: rest => some (.star, rest)
  | c :: rest =>
    let letter? : Option (Char × Octets) :=
      if extended then some (c, rest)
      else match c, rest with
        | '\\', d :: rest => some (d, rest)
        | _, _ => none
    match letter? with
    | some ('(', rest) => some (.opening, rest)
    | some (')', rest) => some (.closing, rest)
    | some ('|', rest) => some (.bar, rest)
    | some ('+', rest) => some (.plus, rest)
    | some ('?', rest) => some (.question, rest)
    | some ('\x7b', rest) => some (.brace, rest)
    | _ => none
  | [] => none

def nextSign (style : Style) : Reading (Option (Sign × Octets)) :=
  return signAt style.extended (← get).rest

def goTo (rest : Octets) : Reading Unit :=
  modify fun s => { s with rest }

def repetition (style : Style) (inner : Regex) (sign : Sign) (rest : Octets) : Reading Regex := do
  match sign with
  | .star =>
    goTo rest
    return .repeated inner 0 none
  | .plus =>
    goTo rest
    return .repeated inner 1 none
  | .question =>
    goTo rest
    return .repeated inner 0 (some 1)
  | _ =>
    let ((least, most), behind) ← bounds style.extended rest
    goTo behind
    return .repeated inner least most

/-- The signs that repeat what stands in front of them. -/
def repetitions (style : Style) : (fuel : Nat) → Regex → Reading Regex
  | 0, inner => return inner
  | fuel + 1, inner => do
    match ← nextSign style with
    | some (sign, rest) =>
      match sign with
      | .star | .plus | .question | .brace =>
        let twice := sign = .star && rest.head? = some '*'
        if twice && !style.extended && !style.lenient then throw nothingRepeated
        repetitions style fuel (← repetition style inner sign rest)
      | _ => return inner
    | none => return inner

/-- What a backslash and a character stand for. -/
def escaped (style : Style) (c : Char) : Reading Regex := do
  let number := c.toNat - '0'.toNat
  if '1' ≤ c && c ≤ '9' then
    if !(← get).closed.contains number then throw "Invalid back reference"
    return .again number
  match c with
  | 'w' => return .among false [.named "alnum", .range '_' '_']
  | 'W' => return .among true [.named "alnum", .range '_' '_']
  | 's' => return .among false [.named "space"]
  | 'S' => return .among true [.named "space"]
  | '<' => return .wordStart
  | '>' => return .wordEnd
  | 'b' => return .wordEdge
  | 'B' => return .noWordEdge
  | '\'' => return .lineEnd
  | c =>
    if c.toNat = 0x60 then return .lineStart
    if style.escapes then
      match c with
      | 'n' => return .exactly '\n'
      | 't' => return .exactly '\t'
      | 'f' => return .exactly '\x0c'
      | 'v' => return .exactly '\x0b'
      | 'r' => return .exactly '\r'
      | 'a' => return .exactly '\x07'
      | c => return .exactly c
    return .exactly c

/-- Whether a dollar sign in front of some text ends a part. -/
def endsPart (style : Style) (rest : Octets) : Bool :=
  style.extended || rest.isEmpty ||
    match signAt false rest with
    | some (.closing, _) | some (.bar, _) => true
    | _ => false

/-- A single part without a sign that repeats it, at the character `c`. -/
def single (style : Style) (start : Bool) (c : Char) (rest : Octets) : Reading Regex := do
  match c with
  | '\\' =>
    match rest with
    | [] => throw "Trailing backslash"
    | d :: rest =>
      goTo rest
      escaped style d
  | '[' =>
    let (found, rest) ← brackets rest
    goTo rest
    return found
  | '.' =>
    goTo rest
    return .any
  | '^' =>
    goTo rest
    return if style.extended || start then .lineStart else .exactly '^'
  | '$' =>
    goTo rest
    return if endsPart style rest then .lineEnd else .exactly '$'
  | c =>
    goTo rest
    return .exactly c

/-- Parts one after the other, up to a sign that ends them. `whole` reads what stands in a group. -/
def parts (style : Style) (whole : Reading Regex) (depth : Nat) :
    (fuel : Nat) → (start : Bool) → Reading (List Regex)
  | 0, _ => return []
  | fuel + 1, start => do
    match (← get).rest with
    | [] => return []
    | c :: rest =>
      let further (inner : Regex) : Reading (List Regex) := do
        let found ← repetitions style (rest.length + 1) inner
        return found :: (← parts style whole depth fuel false)
      match signAt style.extended (c :: rest) with
      | some (.bar, _) => return []
      | some (.closing, behind) =>
        if 0 < depth then return []
        if !(style.extended && style.lenient) then throw "Unmatched ) or \\)"
        goTo behind
        further (.exactly ')')
      | some (.opening, behind) =>
        let number := (← get).groups + 1
        modify fun s => { s with rest := behind, groups := number }
        let inner ← whole
        match ← nextSign style with
        | some (.closing, behind) =>
          modify fun s => { s with rest := behind, closed := number :: s.closed }
          further (.group number inner)
        | _ => throw "Unmatched ( or \\("
      | some (sign, behind) =>
        if !start then
          goTo behind
          further (.exactly c)
        else if sign = .star && !style.extended then
          goTo behind
          further (.exactly '*')
        else if style.lenient then
          goTo behind
          parts style whole depth fuel start
        else throw nothingRepeated
      | none =>
        if c = '^' && start then
          goTo rest
          return .lineStart :: (← parts style whole depth fuel true)
        let inner ← single style start c rest
        further inner

/-- Alternatives, up to a sign that ends them. -/
def alternatives (style : Style) (whole : Reading Regex) (depth : Nat) : (fuel : Nat) → Reading Regex
  | 0 => return .nothing
  | fuel + 1 => do
    let bound := (← get).rest.length + 1
    let found ← parts style whole depth bound true
    let joined := found.foldr (fun part rest =>
      match rest with
      | .nothing => part
      | rest => .sequence part rest) Regex.nothing
    match ← nextSign style with
    | some (.bar, rest) =>
      goTo rest
      return .either joined (← alternatives style whole depth fuel)
    | _ => return joined

/-- What stands in so many groups. The fuel bounds how deep groups stand inside each other. -/
def inGroups (style : Style) : (fuel : Nat) → (depth : Nat) → Reading Regex
  | 0, _ => throw "Regular expression too big"
  | fuel + 1, depth => do
    alternatives style (inGroups style fuel (depth + 1)) depth ((← get).rest.length + 1)

/-- Read a regular expression. -/
def read (style : Style) (text : Octets) : Except String Regex :=
  (inGroups style (text.length + 1) 0 { rest := text }).map (·.1)

end AsmLayout.Host.Regex
