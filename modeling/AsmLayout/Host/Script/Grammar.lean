import AsmLayout.Host.Script.Token

/-! # The grammar of scripts

A script is read one complete line at a time, so that what stands in front of a mistake still runs.
-/

namespace AsmLayout.Host

open Text (Octets)

/-- Where a list of commands stands. -/
inductive ListMode where
  /-- It ends with the line. -/
  | line
  /-- It ends with what encloses it, and is not empty. -/
  | body
  /-- It ends with what encloses it. -/
  | optional
  deriving Repr, DecidableEq

def Command.followedBy : Command → Command → Command
  | .nothing, second => second
  | first, second => .sequence first second

/-- Pipelines that run depending on how the one before ended, from behind the first one on. -/
def chain (inner : Inner) (pipeline : Read Command) : (fuel : Nat) → Command → Read Command
  | 0, first => return first
  | fuel + 1, first => do
    match ← token inner with
    | .andAnd =>
      expect true true
      chain inner pipeline fuel (.andThen first (← pipeline))
    | .orOr =>
      expect true true
      chain inner pipeline fuel (.orElse first (← pipeline))
    | _ =>
      pushBack
      return first

def piped (inner : Inner) : (fuel : Nat) → Read (List Command)
  | 0 => return []
  | fuel + 1 => do
    match ← token inner with
    | .bar =>
      expect true true
      let command ← inner.command
      return command :: (← piped inner fuel)
    | _ =>
      pushBack
      return []

/-- Commands joined by bars, with or without an exclamation mark in front. -/
def pipeline (inner : Inner) : Read Command := do
  let negated ← acceptKeyword inner "!"
  if negated then expect false true
  let first ← inner.command
  let others ← piped inner (← remaining)
  let whole := if others.isEmpty then first else .pipeline (first :: others)
  return if negated then .negation whole else whole

/-- Pipelines joined by what depends on how they end. -/
def andOr (inner : Inner) : Read Command := do
  let first ← pipeline inner
  chain inner (pipeline inner) (← remaining) first

/-- The end of the text in a list. Only a list that ends with its line tells that there is none. -/
def atEnd (inner : Inner) (mode : ListMode) (soFar : Option Command) : Read (Option Command) := do
  readDocuments inner
  modify fun s => { s with pushed := some .endOfFile, last := .endOfFile }
  return if mode = .line then soFar else some (soFar.getD .nothing)

/-- The rest of a list of commands, `soFar` being the commands so far. -/
def listFrom (inner : Inner) (mode : ListMode) :
    (fuel : Nat) → (mayEnd : Bool) → (soFar : Option Command) → Read (Option Command)
  | 0, _, _ => refuse "too long"
  | fuel + 1, mayEnd, soFar => do
    expect (mode != .line) true
    match ← token inner with
    | .newline =>
      readDocuments inner
      return some (soFar.getD .nothing)
    | .endOfFile => atEnd inner mode soFar
    | first =>
      pushBack
      if mayEnd && first.endsList then return some (soFar.getD .nothing)
      let next ← andOr inner
      let behind ← token inner
      let next := match behind with
        | .ampersand => .background next
        | _ => next
      let soFar := some ((soFar.getD .nothing).followedBy next)
      let mayEnd := mode != .line
      match behind with
      | .endOfFile => atEnd inner mode soFar
      | .newline =>
        pushBack
        listFrom inner mode fuel mayEnd soFar
      | .ampersand | .semicolon => listFrom inner mode fuel mayEnd soFar
      | _ =>
        if mode = .line then unexpected
        pushBack
        return soFar

/-- A list of commands; `none` at the end of the text. -/
def list? (inner : Inner) (mode : ListMode) : Read (Option Command) := do
  listFrom inner mode (← remaining) (mode = .optional) none

/-- A list of commands inside something. -/
def list (inner : Inner) (mode : ListMode := .body) : Read Command :=
  return (← list? inner mode).getD .nothing

/-- The target of a redirection, with its operator in front already read. -/
def redirection (inner : Inner) (descriptor : Nat) (sign : RedirectSign) : Read Redirection := do
  match sign with
  | .here _ => modify fun s => { s with plainDollar := true }
  | _ => pure ()
  match ← token inner with
  | .word pieces =>
    match sign with
    | .access access => return .file descriptor access pieces
    | .duplicate => return .duplicate descriptor pieces
    | .here stripped =>
      let ending := pieces.flatMap fun
        | .text text _ => text
        | _ => []
      let document := (← get).numbered
      let pending : Pending := { document, stripped, ending, literal := isQuotedWord pieces }
      modify fun s => { s with numbered := document + 1, pending := s.pending ++ [pending] }
      return .here descriptor document
  | _ => unexpected

def redirections (inner : Inner) : (fuel : Nat) → Read (List Redirection)
  | 0 => return []
  | fuel + 1 => do
    match ← token inner with
    | .redirect descriptor sign =>
      let here ← redirection inner descriptor sign
      return here :: (← redirections inner fuel)
    | _ =>
      pushBack
      return []

def withRedirections (inner : Inner) (line : Nat) (command : Command) : Read Command := do
  expect false true
  let added ← redirections inner (← remaining)
  if added.isEmpty then return command
  match command with
  | .subshell line body _ => return .subshell line body added
  | command => return .redirected line command added

/-- The variable that a word sets, with the pieces of its value. -/
def assignment? : List Piece → Option (Octets × List Piece)
  | .text text false :: rest =>
    let name := text.takeWhile isNameChar
    match text.dropWhile isNameChar with
    | '=' :: value =>
      if isName name then
        some (name, if value.isEmpty then rest else .text value false :: rest)
      else none
    | _ => none
  | _ => none

/-- Commands that are part of the language itself: mistakes in their use end a script. -/
def specialCommands : List String :=
  [".", ":", "break", "continue", "eval", "exec", "exit", "export", "local", "readonly", "return", "set",
   "shift", "times", "trap", "unset"]

/-- A function, from behind the opening parenthesis behind its name on. -/
def definition (inner : Inner) (name : List Piece) : Read Command := do
  match ← token inner with
  | .closing => pure ()
  | _ => unexpected (some .closing)
  match name with
  | [.text name false] =>
    if !isName name || specialCommands.contains (String.ofList name) then
      refuse "Bad function name"
    expect true true
    let line := (← get).line
    return .definition line name (← inner.command)
  | _ => refuse "Bad function name"

/-- The parts of a simple command, in order. -/
structure SimpleParts where
  assignments : List (Octets × List Piece) := []
  words : List (List Piece) := []
  redirections : List Redirection := []

/-- A simple command, or a function, from its first token on. -/
def simpleFrom (inner : Inner) (line : Nat) : (fuel : Nat) → SimpleParts → Read Command
  | 0, _ => refuse "too long"
  | fuel + 1, parts => do
    modify fun s => { s with seesAliases := parts.words.isEmpty }
    match ← token inner with
    | .word pieces =>
      match if parts.words.isEmpty then assignment? pieces else none with
      | some binding =>
        simpleFrom inner line fuel { parts with assignments := parts.assignments ++ [binding] }
      | none => simpleFrom inner line fuel { parts with words := parts.words ++ [pieces] }
    | .redirect descriptor sign =>
      let added ← redirection inner descriptor sign
      simpleFrom inner line fuel { parts with redirections := parts.redirections ++ [added] }
    | found =>
      match found, parts with
      | .opening, { assignments := [], words := [name], redirections := [] } =>
        definition inner name
      | _, _ =>
        pushBack
        return .simple line parts.assignments parts.words parts.redirections

/-- What follows the test of a conditional command, up to what closes it. -/
def conditionalFrom (inner : Inner) : (fuel : Nat) → Read Command
  | 0 => refuse "too long"
  | fuel + 1 => do
    let test ← list inner
    requireKeyword inner "then"
    let body ← list inner
    match ← token inner with
    | .keyword "elif" => return .conditional test body (← conditionalFrom inner fuel)
    | .keyword "else" =>
      let otherwise ← list inner
      requireKeyword inner "fi"
      return .conditional test body otherwise
    | .keyword "fi" => return .conditional test body .nothing
    | _ => unexpected (some (.keyword "fi"))

/-- Words up to the token that ends them. -/
def wordsOf (inner : Inner) : (fuel : Nat) → Read (List (List Piece))
  | 0 => return []
  | fuel + 1 => do
    match ← token inner with
    | .word pieces => return pieces :: (← wordsOf inner fuel)
    | _ => return []

def bodyBetween (inner : Inner) (opening closing : String) : Read Command := do
  requireKeyword inner opening
  let body ← list inner
  requireKeyword inner closing
  return body

/-- A loop over words, from behind its keyword on. -/
def each (inner : Inner) (line : Nat) : Read Command := do
  let name ← match ← token inner with
    | .word [.text name false] =>
      if isName name then pure name else refuse "Bad for loop variable"
    | _ => refuse "Bad for loop variable"
  expect true true
  let words ← match ← token inner with
    | .keyword "in" => do
      let words ← wordsOf inner (← remaining)
      match (← get).last with
      | .newline | .semicolon => pure ()
      | _ => unexpected
      pure words
    | found => do
      match found with
      | .semicolon => pure ()
      | _ => pushBack
      pure [[.text [] true, .parameter ['@'] .plain [] true]]
  expect true true
  return .each line name words (← bodyBetween inner "do" "done")

/-- The patterns of a clause, with `first` in front, up to the closing parenthesis. -/
def patterns (inner : Inner) : (fuel : Nat) → (first : Token) → Read (List (List Piece))
  | 0, _ => refuse "too long"
  | fuel + 1, first => do
    let pattern := match first with
      | .word pieces => pieces
      | .keyword name => [.text name.toList false]
      | _ => []
    match ← token inner with
    | .bar => return pattern :: (← patterns inner fuel (← token inner))
    | .closing => return [pattern]
    | _ => unexpected (some .closing)

/-- The clauses of a choice, up to the keyword that closes it. -/
def clauses (inner : Inner) : (fuel : Nat) → Read (List (List (List Piece) × Command))
  | 0 => refuse "too long"
  | fuel + 1 => do
    expect true true
    modify fun s => { s with seesAliases := false }
    match ← token inner with
    | .keyword "esac" => return []
    | found =>
      let first ← match found with
        | .opening => token inner
        | found => pure found
      let choices ← patterns inner (← remaining) first
      let body ← list inner .optional
      expect true true
      match ← token inner with
      | .keyword "esac" => return [(choices, body)]
      | .doubleSemicolon => return (choices, body) :: (← clauses inner fuel)
      | _ => unexpected (some .doubleSemicolon)

/-- A choice, from behind its keyword on. -/
def choice (inner : Inner) (line : Nat) : Read Command := do
  let subject ← match ← token inner with
    | .word pieces => pure pieces
    | _ => unexpected (some (.word []))
  expect true true
  requireKeyword inner "in"
  return .choice line subject (← clauses inner (← remaining))

def commandOf (inner : Inner) : Read Command := do
  let line := (← get).line
  match ← token inner with
  | .keyword "if" =>
    withRedirections inner line (← conditionalFrom inner (← remaining))
  | .keyword "while" =>
    let test ← list inner
    withRedirections inner line (.loop false test (← bodyBetween inner "do" "done"))
  | .keyword "until" =>
    let test ← list inner
    withRedirections inner line (.loop true test (← bodyBetween inner "do" "done"))
  | .keyword "for" => withRedirections inner line (← each inner line)
  | .keyword "case" => withRedirections inner line (← choice inner line)
  | .keyword "\x7b" =>
    let body ← list inner
    requireKeyword inner "\x7d"
    withRedirections inner line body
  | .opening =>
    let body ← list inner
    match ← token inner with
    | .closing => withRedirections inner line (.subshell line body [])
    | _ => unexpected (some .closing)
  | .word _ | .redirect _ _ =>
    pushBack
    simpleFrom inner line (← remaining) {}
  | _ => unexpected

/-- The command between parentheses behind a dollar sign. -/
def substitution (inner : Inner) : Read Command := do
  let outer ← get
  set { outer with
    pending := [], skipsNewlines := false, seesKeywords := false, seesAliases := false }
  let body ← list inner .optional
  match ← token inner with
  | .closing =>
    modify fun s =>
      { s with pending := outer.pending, skipsNewlines := outer.skipsNewlines,
               seesKeywords := outer.seesKeywords, seesAliases := outer.seesAliases,
               plainDollar := outer.plainDollar,
               pushed := none, last := outer.last }
    return body
  | _ => unexpected (some .closing)

/-- The text of a script between backquotes, up to the closing one, which is dropped. -/
def backquoted (quoted : Bool) : (fuel : Nat) → Read Octets
  | 0 => refuse "EOF in backquote substitution"
  | fuel + 1 => do
    joinLines
    match ← peek with
    | none => refuse "EOF in backquote substitution"
    | some c =>
      advance
      if isBackquote c then return []
      if c = '\\' then
        match ← peek with
        | none => refuse "EOF in backquote substitution"
        | some d =>
          advance
          let plain := d = '\\' || isBackquote d || d = '$' || (quoted && d = '"')
          return (if plain then [d] else [c, d]) ++ (← backquoted quoted fuel)
      return c :: (← backquoted quoted fuel)

/-- What stands between backquotes. Its lines are counted by themselves. -/
def backquoteOf (inner : Inner) (quoted : Bool) : Read (List Piece) := do
  let text ← backquoted quoted (← remaining)
  let outer ← get
  set { outer with
    rest := text, line := 1, pending := [], pushed := none, skipsNewlines := false,
    seesKeywords := false, seesAliases := false, replaced := [] }
  let body ← list inner .optional
  modify fun s => { outer with documents := s.documents, numbered := s.numbered }
  return [.output body quoted]

/-- Whether a character names a parameter on its own. -/
def isSpecial (c : Char) : Bool :=
  c == '#' || c == '?' || c == '$' || c == '!' || c == '-' || c == '*' || c == '@' ||
    ('0' ≤ c && c ≤ '9')

/-- The form behind the name of a parameter in braces. What is left is its operand. -/
def formSign : Read Form := do
  joinLines
  let orEmpty ← accept ':'
  joinLines
  match ← peek with
  | some '\x7d' =>
    if orEmpty then advance
    return .plain
  | some '-' =>
    advance
    return .fallback orEmpty
  | some '+' =>
    advance
    return .instead orEmpty
  | some '?' =>
    advance
    return .required orEmpty
  | some '=' =>
    advance
    return .assigned orEmpty
  | some c =>
    if orEmpty || !(c = '%' || c = '#') then return .senseless
    advance
    joinLines
    return .trimmed (c = '%') (← accept c)
  | none => return .senseless

/-- A parameter in braces, from behind its name on. -/
def bracedForm (inner : Inner) (name : Octets) (quoted : Bool) : Read (List Piece) := do
  let form ← formSign
  let insideQuotes := quoted && match form with
    | .trimmed _ _ => false
    | _ => true
  let operand := joinPieces (← operandPieces inner insideQuotes (← remaining))
  return [.parameter name form operand quoted]

/-- The name of a parameter in braces that starts with the character `c`. -/
def bracedName (c : Char) : Read Octets := do
  if startsName c then takeJoined isNameChar (← remaining)
  else takeJoined (fun d => (digit? d).isSome) (← remaining)

/-- A parameter in braces, from behind the opening one on. -/
def braced (inner : Inner) (quoted : Bool) : Read (List Piece) := do
  let lengthOf (name : Octets) : Read (List Piece) := do
    let form : Form := if (← peek) = some '\x7d' then .length else .senseless
    let _ ← operandPieces inner quoted (← remaining)
    return [.parameter name form [] quoted]
  joinLines
  match ← peek with
  | none => refuse "Missing '\x7d'"
  | some c =>
    if startsName c || (digit? c).isSome then
      let name ← bracedName c
      bracedForm inner name quoted
    else if c = '#' then
      advance
      joinLines
      match ← peek with
      | some d =>
        if startsName d || (digit? d).isSome then
          let name ← bracedName d
          joinLines
          lengthOf name
        else if isSpecial d && (← get).rest[1]? = some '\x7d' then
          advance
          lengthOf [d]
        else bracedForm inner ['#'] quoted
      | none => bracedForm inner ['#'] quoted
    else if isSpecial c then
      advance
      bracedForm inner [c] quoted
    else
      let _ ← operandPieces inner quoted (← remaining)
      return [.parameter [] .senseless [] quoted]

/-- What a dollar sign stands for. -/
def dollarOf (inner : Inner) (quoted : Bool) : Read (List Piece) := do
  joinLines
  if (← get).plainDollar then return [.text ['$'] quoted]
  match ← peek with
  | some '(' =>
    advance
    joinLines
    if ← accept '(' then
      let pieces ← arithmeticPieces inner (← remaining) 0
      return [.arithmetic (joinPieces pieces) quoted]
    return [.output (← substitution inner) quoted]
  | some '\x7b' =>
    advance
    braced inner quoted
  | some c =>
    if startsName c then
      return [.parameter (← takeJoined isNameChar (← remaining)) .plain [] quoted]
    else if isSpecial c then
      advance
      return [.parameter [c] .plain [] quoted]
    return [.text ['$'] quoted]
  | none => return [.text ['$'] quoted]

/-- The parts of scripts that may be so deep inside each other. -/
def innerAt : (depth : Nat) → Inner
  | 0 =>
    { command := refuse "nested too deeply", dollar := fun _ => refuse "nested too deeply",
      backquote := fun _ => refuse "nested too deeply" }
  | depth + 1 =>
    { command := fun s => commandOf (innerAt depth) s
      dollar := fun quoted s => dollarOf (innerAt depth) quoted s
      backquote := fun quoted s => backquoteOf (innerAt depth) quoted s }

/-- How deep the parts of a script may be inside each other. -/
def greatestDepth : Nat := 400

/-- Read the next complete line of a script; `none` at its end. -/
def nextLine : Read (Option Command) := do
  modify fun s =>
    { s with pushed := none, skipsNewlines := false, seesKeywords := false, seesAliases := false,
             pending := [] }
  list? (innerAt greatestDepth) .line

end AsmLayout.Host
