import AsmLayout.Host.Awk.Pattern
import AsmLayout.Host.Awk.Syntax
import AsmLayout.Host.Shell.Session

/-! # Tokens of programs

A reader looks at one token of a program at a time. It counts the parentheses and braces that are open, and
keeps the mistakes that have been found.
-/

namespace AsmLayout.Host.Awk

open Text (Octets)

inductive Token where
  | newline
  | finish
  /-- A sign. -/
  | mark (text : String)
  /-- A word with a meaning of its own. -/
  | word (text : String)
  | number (x : Float) (text : Octets)
  | text (text : Octets)
  | name (name : String)
  | known (function : Known) (name : String)
  /-- A character that means nothing. -/
  | unknown (c : Char)
  deriving Repr

inductive Use where
  | scalar
  | table
  deriving Repr, DecidableEq

inductive Spot where
  /-- At the start or at the end, where there is no record to leave. -/
  | border
  | rule
  | function
  deriving Repr, DecidableEq

structure Source where
  /-- The text behind the token. -/
  rest : Octets
  /-- The text from the token on. -/
  here : Octets := []
  token : Token := .newline
  /-- Whether a statement has ended in front of the token. -/
  afterEnd : Bool := true
  /-- The line of the token. -/
  line : Nat := 1
  /-- The line behind the token. -/
  nextLine : Nat := 1
  parentheses : Nat := 0
  braces : Nat := 0
  loops : Nat := 0
  spot : Spot := .border
  /-- The mistakes, the last one first. -/
  mistakes : List String := []
  /-- What names are used for. -/
  uses : List (String × Use) := []
  /-- The parameters of the function that is read, and what they are used for. -/
  parameters : List (String × Option Use) := []
  /-- The functions that are known by now. -/
  functions : List (String × Function) := []
  /-- The functions that have been called, with the line and the number of arguments, the last one first. -/
  called : List (String × Nat × Nat) := []
  /-- The files that the program stands in, the last one first: the lines in front of them, and their names
      unless it is a word of the command line. -/
  files : List (Nat × Option String) := []
  /-- A bound for the number of tokens. -/
  bound : Nat

/-- Why a part of a program cannot be read. -/
inductive Stop where
  /-- The token makes no sense, but what follows may. -/
  | here
  /-- Nothing more is read. -/
  | forGood
  deriving Repr, DecidableEq

/-- What reads a part of a program. -/
abbrev Parse := ExceptT Stop (StateM Source)

def mostMistakes : Nat := 5

def note (message : String) : Parse Unit := do
  modify fun s => { s with mistakes := message :: s.mistakes }
  if mostMistakes ≤ (← get).mistakes.length then throw .forGood

/-- Keep a mistake in a line. -/
def noteAt (line : Nat) (message : String) : Parse Unit := do
  match (← get).files.find? fun file => file.1 < line with
  | some (before, some name) => note s!"{name}: line {line - before}: {message}"
  | _ => note s!"line {line}: {message}"

/-- Keep a mistake in the line of the token. -/
def noteHere (message : String) : Parse Unit := do
  noteAt (← get).line message

def fault {α : Type} (stop : Stop) (message : String) : Parse α := do
  noteHere message
  throw stop

def keywords : List String :=
  ["BEGIN", "END", "function", "func", "if", "else", "while", "for", "do", "break", "continue", "next",
   "nextfile", "exit", "return", "delete", "getline", "print", "printf", "in"]

def knownFunctions : List (String × Known) :=
  [("length", .length), ("substr", .substr), ("index", .index), ("split", .split), ("match", .fit),
   ("sub", .sub), ("gsub", .gsub), ("sprintf", .sprintf), ("sin", .sin), ("cos", .cos),
   ("atan2", .atan2), ("exp", .exp), ("log", .log), ("sqrt", .sqrt), ("int", .int), ("rand", .rand),
   ("srand", .srand), ("toupper", .toupper), ("tolower", .tolower), ("system", .system),
   ("close", .close), ("fflush", .fflush), ("systime", .systime)]

/-- The signs, the longer ones first. -/
def marks : List String :=
  ["&&", "||", "++", "--", "+=", "-=", "*=", "/=", "%=", "^=", "==", "<=", ">=", "!=", "!~", ">>",
   "\x7b", "\x7d", "(", ")", "[", "]", ";", ",", "+", "-", "*", "/", "%", "^", "!", ">", "<", "|", "?", ":",
   "~", "$", "="]

/-- A text without the blanks and the comment in front, and how many lines that end with a backslash have
    been passed. -/
def skipBlanks : (fuel : Nat) → (lines : Nat) → Octets → Nat × Octets
  | 0, lines, text => (lines, text)
  | fuel + 1, lines, text =>
    match text with
    | '\\' :: '\n' :: rest => skipBlanks fuel (lines + 1) rest
    | '\\' :: '\r' :: '\n' :: rest => skipBlanks fuel (lines + 1) rest
    | '#' :: rest => (lines, rest.dropWhile (· != '\n'))
    | c :: rest =>
      if c == ' ' || c == '\t' || c == '\r' || c == '\x0b' || c == '\x0c' then skipBlanks fuel lines rest
      else (lines, text)
    | [] => (lines, [])

/-- The text in quotes as it is written, from behind the opening quote on, and what follows the closing one;
    `none` if there is none in the line. -/
def quotedAt : (fuel : Nat) → Octets → Option (Octets × Octets)
  | 0, _ | _, [] => none
  | _ + 1, '"' :: rest => some ([], rest)
  | fuel + 1, '\\' :: '\n' :: rest => quotedAt fuel rest
  | fuel + 1, '\\' :: c :: rest => (quotedAt fuel rest).map fun (text, rest) => ('\\' :: c :: text, rest)
  | fuel + 1, c :: rest =>
    if c = '\n' then none else (quotedAt fuel rest).map fun (text, rest) => (c :: text, rest)

/-- A text with the characters that its backslashes stand for. Other backslashes stay. -/
def unescapeText : (fuel : Nat) → Octets → Octets
  | 0, _ | _, [] => []
  | fuel + 1, '\\' :: c :: rest =>
    let found? : Option Char := match c with
      | '"' => some '"'
      | '\\' => some '\\'
      | 'a' => some '\x07'
      | 'b' => some '\x08'
      | 'f' => some '\x0c'
      | 'n' => some '\n'
      | 'r' => some '\r'
      | 't' => some '\t'
      | 'v' => some '\x0b'
      | _ => none
    let sixteens := (rest.take 2).takeWhile (Arithmetic.isDigitOf 16)
    match found? with
    | some found => found :: unescapeText fuel rest
    | none =>
      if '0' ≤ c && c ≤ '7' then
        let (n, behind) := Pattern.octalAt 3 0 (c :: rest)
        Char.ofNat (n % 256) :: unescapeText fuel behind
      else if c = 'x' && !sixteens.isEmpty then
        Char.ofNat (Arithmetic.digits 16 sixteens).1 :: unescapeText fuel (rest.drop sixteens.length)
      else '\\' :: c :: unescapeText fuel rest
  | fuel + 1, c :: rest => c :: unescapeText fuel rest

/-- The regular expression between slashes as it is written, from behind the first one on, and what follows
    the last one. A slash in brackets ends nothing. -/
def slashedAt : (fuel : Nat) → (brackets : Bool) → Octets → Option (Octets × Octets)
  | 0, _, _ | _, _, [] => none
  | fuel + 1, brackets, '\\' :: c :: rest =>
    (slashedAt fuel brackets rest).map fun (text, behind) =>
      (if c = '/' || c = '"' then (c :: text, behind) else ('\\' :: c :: text, behind))
  | fuel + 1, brackets, c :: rest =>
    let continued (brackets : Bool) (front rest : Octets) : Option (Octets × Octets) :=
      (slashedAt fuel brackets rest).map fun (text, behind) => (front ++ text, behind)
    if c = '\n' then none
    else if brackets then
      if c = '[' && rest.head? = some ':' then
        let name := (rest.drop 1).takeWhile Char.isAlpha
        match rest.drop (name.length + 1) with
        | ':' :: ']' :: behind => continued true (ascii "[:" ++ name ++ ascii ":]") behind
        | _ => continued true [c] rest
      else continued (c != ']') [c] rest
    else if c = '/' then some ([], rest)
    else if c = '[' then
      match rest with
      | '^' :: ']' :: behind => continued true (ascii "[^]") behind
      | ']' :: behind => continued true (ascii "[]") behind
      | rest => continued true [c] rest
    else continued false [c] rest

def startsName (c : Char) : Bool :=
  c.isAlpha || c == '_'

/-- Whether a character can be part of a name. -/
def inName (c : Char) : Bool :=
  c.isAlphanum || c == '_'

def nameToken (name : String) : Token :=
  if keywords.contains name then .word name
  else match knownFunctions.lookup name with
    | some function => .known function name
    | none => .name name

/-- A text without the line ends, the blanks and the comments in front, and how many lines have been
    passed. -/
def skipGap : (fuel : Nat) → (lines : Nat) → Octets → Nat × Octets
  | 0, lines, text => (lines, text)
  | fuel + 1, lines, text =>
    let (lines, text) := skipBlanks (text.length + 1) lines text
    match text with
    | '\n' :: rest => skipGap fuel (lines + 1) rest
    | text => (lines, text)

def Token.passesLines : Token → Bool
  | newline => true
  | mark shape => [";", "\x7b", "\x7d", ",", "&&", "||"].contains shape
  | word shape => shape == "do" || shape == "else"
  | _ => false

def Token.isEnd : Token → Bool
  | newline => true
  | mark shape => shape == ";" || shape == "\x7d"
  | _ => false

/-- A text without the semicolon in front. -/
def skipSemicolon (text : Octets) : Octets :=
  match text.dropWhile fun c => c == ' ' || c == '\t' with
  | ';' :: rest => rest
  | _ => text

/-- Go on to the next token. -/
def next : Parse Unit := do
  let s ← get
  let rec go : (fuel : Nat) → (line : Nat) → Octets → Parse Unit
    | 0, _, _ => return ()
    | fuel + 1, line, text => do
      let (passed, text) := skipBlanks (text.length + 1) 0 text
      let line := line + passed
      let found (token : Token) (behind : Nat) (rest : Octets) : Parse Unit :=
        let (lines, rest) := if token.passesLines then skipGap (rest.length + 1) 0 rest else (0, rest)
        modify fun s =>
          { s with rest, here := text, token, line, afterEnd := s.token.isEnd
                   nextLine := line + behind + lines }
      match text with
      | [] => found .finish 0 []
      | '\n' :: rest => found .newline 1 rest
      | '"' :: rest =>
        match quotedAt (rest.length + 1) rest with
        | some (quoted, behind) =>
          let lines := (rest.take (rest.length - behind.length)).count '\n'
          found (.text (unescapeText (quoted.length + 1) quoted)) lines behind
        | none =>
          modify fun s => { s with line }
          fault .forGood ("runaway string constant \"" ++
            String.ofList ((rest.takeWhile (· != '\n')).take 10) ++ " ...")
      | c :: rest =>
        if c.isDigit || (c = '.' && (rest.head?.any Char.isDigit)) then
          match literalAt? text with
          | some (x, behind) =>
            let digits := text.take (text.length - behind.length)
            modify fun s => { s with line }
            if x.isInf then noteHere (String.ofList digits ++ " : decimal overflow")
            let significant := digits.takeWhile fun c => c != 'e' && c != 'E'
            if x == 0.0 && significant.any ("123456789".toList.contains ·) then
              noteHere (String.ofList digits ++ " : decimal underflow")
            found (.number x digits) 0 behind
          | none => found .finish 0 []
        else if startsName c then
          let name := text.takeWhile inName
          found (nameToken (String.ofList name)) 0 (text.drop name.length)
        else
          match marks.find? fun mark => (ascii mark).isPrefixOf text with
          | none => found (.unknown c) 0 rest
          | some mark =>
            let rest := text.drop mark.length
            modify fun s => { s with line }
            match mark, s.parentheses, s.braces with
            | "(", n, _ =>
              modify fun s => { s with parentheses := n + 1 }
              found (.mark mark) 0 rest
            | ")", 0, _ =>
              noteHere "extra ')'"
              go fuel line rest
            | ")", n + 1, _ =>
              modify fun s => { s with parentheses := n }
              found (.mark mark) 0 rest
            | "\x7b", _, n =>
              modify fun s => { s with braces := n + 1 }
              found (.mark mark) 0 rest
            | "\x7d", _, 0 =>
              noteHere "extra '\x7d'"
              go fuel line (skipSemicolon rest)
            | "\x7d", _, n + 1 =>
              modify fun s => { s with braces := n }
              found (.mark mark) 0 (if n = 0 then skipSemicolon rest else rest)
            | _, _, _ => found (.mark mark) 0 rest
  go (s.rest.length + 2) s.nextLine s.rest

/-- A token as it is told in a complaint. -/
def Token.shown : Token → String
  | newline => "end of line"
  | finish => "end of file"
  | mark shape => if shape == ">>" then ">" else shape
  | word shape => shape
  | number _ shape | text shape => String.ofList shape
  | name shape | known _ shape => shape
  | unknown c => String.ofList [c]

/-- Give up because the token makes no sense where it stands. -/
def unexpected {α : Type} : Parse α := do
  let s ← get
  match s.token with
  | .unknown c =>
    note (s!"{s.line}: unexpected character " ++
      (if c.toNat < 128 then String.ofList ['\'', c, '\'']
       else "0x" ++ String.ofList (Nat.toDigits 16 c.toNat)))
    throw .here
  | _ => pure ()
  let shown := s.token.shown
  let isEnd := match s.token with
    | .newline | .mark "\x7d" | .mark ";" => true
    | _ => false
  let isBlockEnd := match s.token with
    | .finish | .word "BEGIN" | .word "END" | .word "function" => true
    | _ => false
  if isEnd && 0 < s.parentheses then
    set { s with parentheses := 0 }
    fault .here ("missing ) near " ++ shown)
  else if isBlockEnd && 0 < s.braces then
    set { s with braces := 0 }
    fault .here ("missing \x7d near " ++ shown)
  else fault .here ("syntax error at or near " ++ shown)

def isMark (mark : String) : Parse Bool :=
  return match (← get).token with
    | .mark text => text == mark
    | _ => false

def isWord (word : String) : Parse Bool :=
  return match (← get).token with
    | .word text => text == word
    | _ => false

/-- Pass a sign if it is the token. -/
def accept (mark : String) : Parse Bool := do
  if ← isMark mark then
    next
    return true
  return false

def expect (mark : String) : Parse Unit := do
  if !(← accept mark) then unexpected

/-- Pass line ends. -/
def skipLines : Parse Unit := do
  let rec go : (fuel : Nat) → Parse Unit
    | 0 => return ()
    | fuel + 1 => do
      match (← get).token with
      | .newline =>
        next
        go fuel
      | _ => return ()
  go ((← get).rest.length + 1)

/-- Pass tokens up to the end of a statement and that end. Parentheses that are open count no more. -/
def skipStatement : Parse Unit := do
  let rec go : (fuel : Nat) → Parse Unit
    | 0 => throw .forGood
    | fuel + 1 => do
      let s ← get
      match s.token with
      | .finish => throw .forGood
      | .newline | .mark ";" =>
        set { s with parentheses := 0 }
        next
      | .mark "\x7d" =>
        if s.afterEnd then
          next
          go fuel
        else set { s with afterEnd := true, parentheses := 0 }
      | _ =>
        next
        go fuel
  go ((← get).rest.length + 2)

/-- Pass tokens up to an opening brace. -/
def skipToBrace : Parse Unit := do
  let rec go : (fuel : Nat) → Parse Unit
    | 0 => throw .forGood
    | fuel + 1 => do
      match (← get).token with
      | .finish => throw .forGood
      | .mark "\x7b" => return ()
      | _ =>
        next
        go fuel
  go ((← get).rest.length + 2)

/-- Read something; if a token makes no sense there, something else is done. -/
def orElse {α : Type} (parse recover : Parse α) : Parse α := fun s =>
  match parse s with
  | (.error .here, s) => recover s
  | result => result

/-- Try to read something; what has been read is given back if that fails. -/
def tryTo {α : Type} (parse : Parse (Option α)) : Parse (Option α) := fun s =>
  match parse s with
  | (.ok (some a), s) => (.ok (some a), s)
  | (_, _) => (.ok none, s)

/-- The regular expression of a text. -/
def readRegex (text : Octets) : Parse Regex := do
  match Pattern.read text with
  | .ok regex => return regex
  | .error cause =>
    noteHere ("regular expression compile failed (" ++ cause.message ++ ")\n" ++ String.ofList text)
    return .nothing

/-- Read the regular expression that starts with the token, which is a slash. -/
def readSlashed : Parse Regex := do
  let s ← get
  let inside := s.here.drop 1
  match slashedAt (inside.length + 1) false inside with
  | none =>
    fault .forGood ("runaway regular expression /" ++
      String.ofList ((inside.takeWhile (· != '\n')).take 10) ++ " ...")
  | some (text, rest) =>
    let regex ← readRegex text
    set { (← get) with rest }
    next
    return regex

end AsmLayout.Host.Awk
