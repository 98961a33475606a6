import AsmLayout.Host.Script

/-! # Tokens of scripts

A script is read token by token. Whether a word is a keyword, and whether line feeds count, depends on what
is expected, so the reader is told before each token. The texts that stand in a script for its commands to
read follow at the next line feed.
-/

namespace AsmLayout.Host

open Text (Octets)

inductive RedirectSign where
  | access (access : Access)
  | duplicate
  /-- A text in the script; tabs in front of its lines are dropped or not. -/
  | here (stripped : Bool)
  deriving Repr, DecidableEq

inductive Token where
  | endOfFile
  | newline
  | semicolon
  | ampersand
  | andAnd
  | orOr
  | bar
  | opening
  | closing
  | doubleSemicolon
  | redirect (descriptor : Nat) (sign : RedirectSign)
  | word (pieces : List Piece)
  | keyword (name : String)

instance : Inhabited Token := ⟨.endOfFile⟩

def Token.display : Token → String
  | endOfFile => "end of file"
  | newline => "newline"
  | semicolon => "\";\""
  | ampersand => "\"&\""
  | andAnd => "\"&&\""
  | orOr => "\"||\""
  | bar => "\"|\""
  | opening => "\"(\""
  | closing => "\")\""
  | doubleSemicolon => "\";;\""
  | redirect _ _ => "redirection"
  | word _ => "word"
  | keyword name => "\"" ++ name ++ "\""

def keywords : List String :=
  ["!", "case", "do", "done", "elif", "else", "esac", "fi", "for", "if", "in", "then", "until",
   "while", "\x7b", "\x7d"]

def Token.endsList : Token → Bool
  | endOfFile | closing | doubleSemicolon => true
  | keyword name =>
    ["do", "done", "elif", "else", "esac", "fi", "then", "\x7d"].contains name
  | _ => false

/-- A text in the script that is still to be read. -/
structure Pending where
  document : Nat
  stripped : Bool
  /-- The line that ends the text. -/
  ending : Octets
  /-- Whether the text stands as written. -/
  literal : Bool

/-- A text that has been put in the place of a word. -/
structure Replacement where
  name : Octets
  /-- How much of the script was left behind the word. -/
  behind : Nat
  /-- Whether the word behind it may be replaced too. -/
  goesOn : Bool

structure Scan where
  rest : List Char
  line : Nat
  /-- How many steps any part of the script can take at most. -/
  budget : Nat
  /-- A token that is to be read once more. -/
  pushed : Option Token := none
  last : Token := .endOfFile
  /-- Line feeds in front of the next token do not count. -/
  skipsNewlines : Bool := false
  /-- The next token may be a keyword. -/
  seesKeywords : Bool := false
  /-- The next token may be a word that stands for a text. -/
  seesAliases : Bool := false
  /-- The texts that words stand for. -/
  aliases : List (Octets × Octets) := []
  replaced : List Replacement := []
  /-- A dollar sign stands for itself. -/
  plainDollar : Bool := false
  pending : List Pending := []
  documents : List (Nat × List Piece) := []
  /-- How many texts have been numbered. -/
  numbered : Nat := 0

/-- Why a script makes no sense. -/
structure Fault where
  line : Nat
  message : String
  deriving Repr, DecidableEq

/-- What reads a part of a script. -/
abbrev Read := StateT Scan (Except Fault)

def refuse {α : Type} (message : String) : Read α := fun s =>
  .error ⟨s.line, "Syntax error: " ++ message⟩

/-- Complain about the last token. -/
def unexpected {α : Type} (wanted : Option Token := none) : Read α := fun s =>
  match wanted with
  | none => refuse (s.last.display ++ " unexpected") s
  | some token => refuse (s.last.display ++ " unexpected (expecting " ++ token.display ++ ")") s

def peek : Read (Option Char) :=
  return (← get).rest.head?

/-- Go past the next character. -/
def advance : Read Unit :=
  modify fun s =>
    match s.rest with
    | [] => s
    | c :: rest => { s with rest, line := if c = '\n' then s.line + 1 else s.line }

/-- Go past a character of the text if it is next. -/
def accept (c : Char) : Read Bool := do
  if (← peek) = some c then
    advance
    return true
  return false

/-- How many steps are enough to read a text. A token may be looked at twice, and the last one and the end
    of the text are still to come when no characters are left. -/
def stepsFor (text : List Char) : Nat :=
  2 * text.length + 4

def Scan.ofText (text : List Char) : Scan :=
  { rest := text, line := 1, budget := stepsFor text }

/-- How many steps can be taken at most until the text is read. -/
def remaining : Read Nat :=
  return (← get).budget

/-- Go past backslashes with line feeds behind them. -/
def joinLines : Read Unit :=
  modify fun s =>
    let rec go : List Char → Nat → List Char × Nat
      | '\\' :: '\n' :: rest, line => go rest (line + 1)
      | rest, line => (rest, line)
    let (rest, line) := go s.rest s.line
    { s with rest, line }

/-- The characters up to one that does not fit, without backslashes that join lines. -/
def takeJoined (fits : Char → Bool) : (fuel : Nat) → Read Octets
  | 0 => return []
  | fuel + 1 => do
    joinLines
    match ← peek with
    | some c =>
      if fits c then
        advance
        return c :: (← takeJoined fits fuel)
      return []
    | none => return []

structure Inner where
  /-- A command. -/
  command : Read Command
  /-- What a dollar sign stands for, from behind it on. -/
  dollar : (quoted : Bool) → Read (List Piece)
  /-- What stands between backquotes, from behind the first one on. -/
  backquote : (quoted : Bool) → Read (List Piece)

def endsWord (c : Char) : Bool :=
  c == ' ' || c == '\t' || c == '\n' || c == ';' || c == '&' || c == '|' || c == '<' || c == '>' ||
    c == '(' || c == ')'

def isBackquote (c : Char) : Bool :=
  c.toNat == 0x60

/-- The text up to a single quote, which is dropped. -/
def singleQuoted : (fuel : Nat) → Read Octets
  | 0 => refuse "Unterminated quoted string"
  | fuel + 1 => do
    match ← peek with
    | none => refuse "Unterminated quoted string"
    | some c =>
      advance
      if c = '\'' then return []
      return c :: (← singleQuoted fuel)

/-- What a backslash between double quotes stands for, from behind it on. It takes away the meaning of a
    few characters only; `others` are some more. -/
def quotedEscape (others : List Char) : Read (List Piece) := do
  match ← peek with
  | none => return [.text ['\\'] true]
  | some '\n' =>
    advance
    return []
  | some c =>
    advance
    if c = '$' || c = '\\' || isBackquote c || others.contains c then return [.text [c] true]
    return [.text ['\\', c] true]

/-- The piece at the next character `c` between double quotes. -/
def quotedPiece (inner : Inner) (others : List Char) (c : Char) : Read (List Piece) := do
  advance
  if c = '\\' then quotedEscape others
  else if c = '$' then inner.dollar true
  else if isBackquote c then inner.backquote true
  else return [.text [c] true]

/-- The pieces up to a double quote, which is dropped. -/
def doubleQuoted (inner : Inner) : (fuel : Nat) → Read (List Piece)
  | 0 => refuse "Unterminated quoted string"
  | fuel + 1 => do
    match ← peek with
    | none => refuse "Unterminated quoted string"
    | some '"' =>
      advance
      return []
    | some c =>
      let here ← quotedPiece inner ['"'] c
      return here ++ (← doubleQuoted inner fuel)

/-- The piece at the next character `c` outside quotes. -/
def unquotedPiece (inner : Inner) (c : Char) : Read (List Piece) := do
  advance
  if c = '\\' then
    match ← peek with
    | none => return [.text ['\\'] false]
    | some '\n' =>
      advance
      return []
    | some c =>
      advance
      return [.text [c] true]
  else if c = '\'' then return [.text (← singleQuoted (← remaining)) true]
  else if c = '"' then return .text [] true :: (← doubleQuoted inner (← remaining))
  else if c = '$' then inner.dollar false
  else if isBackquote c then inner.backquote false
  else return [.text [c] false]

def wordPieces (inner : Inner) : (fuel : Nat) → Read (List Piece)
  | 0 => return []
  | fuel + 1 => do
    match ← peek with
    | none => return []
    | some c =>
      if endsWord c then return []
      let here ← unquotedPiece inner c
      return here ++ (← wordPieces inner fuel)

/-- The pieces of an operand in braces, up to the closing brace, which is dropped. -/
def operandPieces (inner : Inner) (quoted : Bool) : (fuel : Nat) → Read (List Piece)
  | 0 => refuse "Missing '\x7d'"
  | fuel + 1 => do
    match ← peek with
    | none => refuse "Missing '\x7d'"
    | some '\x7d' =>
      advance
      return []
    | some c =>
      let here ←
        if !quoted then unquotedPiece inner c
        else if c = '"' then
          advance
          doubleQuoted inner (← remaining)
        else quotedPiece inner ['"', '\x7d'] c
      return here ++ (← operandPieces inner quoted fuel)

/-- The pieces of an arithmetic expression, up to the two closing parentheses, which are dropped. -/
def arithmeticPieces (inner : Inner) : (fuel depth : Nat) → Read (List Piece)
  | 0, _ => refuse "Missing '))'"
  | fuel + 1, depth => do
    match ← peek with
    | none => refuse "Missing '))'"
    | some '(' =>
      advance
      return .text ['('] true :: (← arithmeticPieces inner fuel (depth + 1))
    | some ')' =>
      advance
      match depth with
      | depth + 1 => return .text [')'] true :: (← arithmeticPieces inner fuel depth)
      | 0 =>
        joinLines
        if ← accept ')' then return []
        return .text [')'] true :: (← arithmeticPieces inner fuel 0)
    | some c =>
      let here ← quotedPiece inner [] c
      return here ++ (← arithmeticPieces inner fuel depth)

/-- The pieces of a text that stands in a script. -/
def documentPieces (inner : Inner) : (fuel : Nat) → Read (List Piece)
  | 0 => return []
  | fuel + 1 => do
    match ← peek with
    | none => return []
    | some c =>
      let here ← quotedPiece inner [] c
      return here ++ (← documentPieces inner fuel)

/-- The raw lines of a text up to the line that ends it. -/
def documentLines (pending : Pending) : (fuel : Nat) → Read Octets
  | 0 => return []
  | fuel + 1 => do
    let rest := (← get).rest
    if rest.isEmpty then return []
    let whole := rest.takeWhile (· != '\n')
    let line := if pending.stripped then whole.dropWhile (· == '\t') else whole
    let behind := rest.drop whole.length
    modify fun s =>
      { s with rest := behind.drop 1, line := if behind.isEmpty then s.line else s.line + 1 }
    if line = pending.ending then return []
    return line ++ behind.take 1 ++ (← documentLines pending fuel)

/-- Read the texts that are waiting for a line feed. -/
def readDocuments (inner : Inner) : Read Unit := do
  let waiting := (← get).pending
  modify fun s => { s with pending := [] }
  for pending in waiting do
    let start := (← get).line
    let text ← documentLines pending (← remaining)
    let pieces ←
      if pending.literal then pure [.text text true]
      else
        let outer ← get
        set { outer with rest := text, line := start, pending := [] }
        let pieces ← documentPieces inner (text.length + 1)
        modify fun s =>
          { outer with documents := s.documents, numbered := s.numbered }
        pure (joinPieces pieces)
    modify fun s => { s with documents := (pending.document, pieces) :: s.documents }

/-- Go past blanks and comments. -/
def skipBlanks : (fuel : Nat) → Read Unit
  | 0 => return ()
  | fuel + 1 => do
    joinLines
    match ← peek with
    | some ' ' | some '\t' =>
      advance
      skipBlanks fuel
    | some '#' =>
      modify fun s => { s with rest := s.rest.dropWhile (· != '\n') }
    | _ => return ()

/-- The sign of a redirection, from behind its first character on. -/
def redirectSign (first : Char) : Read RedirectSign := do
  joinLines
  if first = '>' then
    if ← accept '>' then return .access .append
    if ← accept '|' then return .access .clobber
    if ← accept '&' then return .duplicate
    return .access .write
  else
    if ← accept '<' then
      joinLines
      return .here (← accept '-')
    if ← accept '&' then return .duplicate
    if ← accept '>' then return .access .readWrite
    return .access .read

/-- A redirection, at its first character, of a descriptor or of the usual one. -/
def redirectToken (descriptor : Option Nat) (first : Char) : Read Token := do
  advance
  let sign ← redirectSign first
  return .redirect (descriptor.getD (if first = '>' then 1 else 0)) sign

/-- The value of a decimal digit. -/
def digit? (c : Char) : Option Nat :=
  if '0' ≤ c && c ≤ '9' then some (c.toNat - '0'.toNat) else none

/-- A word, or a redirection of the descriptor that a lone digit names. -/
def wordToken (inner : Inner) : Read Token := do
  let pieces := joinPieces (← wordPieces inner (← remaining))
  match pieces, ← peek with
  | [.text [d] false], some c =>
    match digit? d with
    | some n => if c = '<' || c = '>' then redirectToken (some n) c else return .word pieces
    | none => return .word pieces
  | _, _ => return .word pieces

/-- A token that starts with the character `c` and may go on with the same one. -/
def doubled (c : Char) (one two : Token) : Read Token := do
  advance
  joinLines
  return if ← accept c then two else one

/-- The next token as it stands. -/
def rawToken (inner : Inner) : Read Token := do
  match (← get).pushed with
  | some token =>
    modify fun s => { s with pushed := none }
    return token
  | none =>
    skipBlanks (← remaining)
    match ← peek with
    | none => return .endOfFile
    | some '\n' =>
      advance
      return .newline
    | some '&' => doubled '&' .ampersand .andAnd
    | some '|' => doubled '|' .bar .orOr
    | some ';' => doubled ';' .semicolon .doubleSemicolon
    | some '(' =>
      advance
      return .opening
    | some ')' =>
      advance
      return .closing
    | some c => if c = '<' || c = '>' then redirectToken none c else wordToken inner

/-- The next token that is no line feed, from a token on. -/
def pastNewlines (inner : Inner) : (fuel : Nat) → Token → Read Token
  | fuel + 1, .newline => do
    readDocuments inner
    pastNewlines inner fuel (← rawToken inner)
  | _, token => return token

def Token.asKeyword : Token → Token
  | .word [.text text false] =>
    let name := String.ofList text
    if keywords.contains name then .keyword name else .word [.text text false]
  | token => token

/-- Put the text that a word stands for in its place, unless the word is part of that text itself; gives
    whether that was done. -/
def replaceWord (name : Octets) : Read Bool := do
  let s ← get
  let behind := s.rest.length
  let inside := s.replaced.any fun entry => entry.name == name && entry.behind ≤ behind
  match s.aliases.lookup name with
  | some text =>
    if inside then return false
    let goesOn := match text.getLast? with
      | some c => c == ' ' || c == '\t'
      | none => false
    set { s with
      rest := text ++ s.rest, budget := s.budget + stepsFor text
      replaced := { name, behind, goesOn } :: s.replaced }
    return true
  | none => return false

/-- The next token, as it is expected. -/
def tokenFrom (inner : Inner) (expected : Scan) : (fuel : Nat) → Read Token
  | 0 => return .endOfFile
  | fuel + 1 => do
    let before ← get
    let start := if before.replaced.isEmpty then 0 else before.rest.length
    let first ← rawToken inner
    let found ←
      if expected.skipsNewlines then pastNewlines inner (← remaining) first else pure first
    let found := if expected.seesKeywords then found.asKeyword else found
    let now ← get
    let goesOn := now.replaced.any fun entry =>
      entry.goesOn && entry.behind < start && now.rest.length < entry.behind
    match found with
    | .word [.text name false] =>
      if (expected.seesAliases || goesOn) && !now.aliases.isEmpty then
        if ← replaceWord name then tokenFrom inner { expected with seesAliases := true } fuel
        else return found
      else return found
    | found => return found

/-- The next token, as it is expected. -/
def token (inner : Inner) : Read Token := do
  let found ← tokenFrom inner (← get) (← remaining)
  modify fun s =>
    { s with skipsNewlines := false, seesKeywords := false, seesAliases := false,
             plainDollar := false, last := found }
  return found

/-- Read the last token once more. -/
def pushBack : Read Unit :=
  modify fun s => { s with pushed := some s.last }

def expect (newlines seeing : Bool) : Read Unit :=
  modify fun s =>
    { s with skipsNewlines := newlines, seesKeywords := seeing, seesAliases := seeing }

/-- Whether the next token is a keyword. It is pushed back if not. -/
def acceptKeyword (inner : Inner) (name : String) : Read Bool := do
  match ← token inner with
  | .keyword found =>
    if found = name then return true
    pushBack
    return false
  | _ =>
    pushBack
    return false

def requireKeyword (inner : Inner) (name : String) : Read Unit := do
  match ← token inner with
  | .keyword found => if found = name then return () else unexpected (some (.keyword name))
  | _ => unexpected (some (.keyword name))

end AsmLayout.Host
