import AsmLayout.Text.Octets

/-! # Scripts

A script is a command made of others. The words of a command keep apart what stands as written and what is
put in when the command runs, and each piece knows whether it stands in quotes.
-/

namespace AsmLayout.Host

open Text (Octets)

/-- What is put in for a parameter. With `orEmpty` a parameter without text counts as one that is not set. -/
inductive Form where
  | plain
  /-- How long the text is. -/
  | length
  /-- Another text if the parameter is not set. -/
  | fallback (orEmpty : Bool)
  /-- Another text if the parameter is set. -/
  | instead (orEmpty : Bool)
  /-- A text that the parameter is set to if it is not set. -/
  | assigned (orEmpty : Bool)
  /-- A complaint if the parameter is not set. -/
  | required (orEmpty : Bool)
  /-- The text without what a pattern matches on one side of it. -/
  | trimmed (behind longest : Bool)
  /-- Nothing that makes sense. -/
  | senseless
  deriving Repr, DecidableEq

/-- How a redirection opens its file. -/
inductive Access where
  | read
  | write
  /-- As `write`, also where files are protected. -/
  | clobber
  | append
  | readWrite
  deriving Repr, DecidableEq

mutual

inductive Piece where
  | text (text : Octets) (quoted : Bool)
  | parameter (name : Octets) (form : Form) (operand : List Piece) (quoted : Bool)
  /-- What a command prints. -/
  | output (command : Command) (quoted : Bool)
  | arithmetic (expression : List Piece) (quoted : Bool)

/-- Where an open file of a command leads. -/
inductive Redirection where
  | file (descriptor : Nat) (access : Access) (target : List Piece)
  /-- To where another open file leads, or nowhere. -/
  | duplicate (descriptor : Nat) (target : List Piece)
  /-- To a text that stands in the script, by its number. -/
  | here (descriptor document : Nat)

/-- A command. The line of the script is kept where a complaint can name it. -/
inductive Command where
  | nothing
  | simple (line : Nat) (assignments : List (Octets × List Piece)) (words : List (List Piece))
      (redirections : List Redirection)
  | sequence (first second : Command)
  /-- The second one runs if the first one succeeds. -/
  | andThen (first second : Command)
  /-- The second one runs if the first one fails. -/
  | orElse (first second : Command)
  | negation (body : Command)
  | pipeline (parts : List Command)
  | background (body : Command)
  | subshell (line : Nat) (body : Command) (redirections : List Redirection)
  | redirected (line : Nat) (body : Command) (redirections : List Redirection)
  | conditional (test body otherwise : Command)
  /-- The body runs while the test succeeds, or until it does. -/
  | loop (untilSuccess : Bool) (test body : Command)
  | each (line : Nat) (name : Octets) (words : List (List Piece)) (body : Command)
  | choice (line : Nat) (subject : List Piece) (clauses : List (List (List Piece) × Command))
  | definition (line : Nat) (name : Octets) (body : Command)

end

instance : Inhabited Command := ⟨.nothing⟩

def startsName (c : Char) : Bool :=
  ('a' ≤ c && c ≤ 'z') || ('A' ≤ c && c ≤ 'Z') || c == '_'

/-- Whether a character can stand in a name. -/
def isNameChar (c : Char) : Bool :=
  startsName c || ('0' ≤ c && c ≤ '9')

def isName : Octets → Bool
  | [] => false
  | c :: rest => startsName c && rest.all isNameChar

/-- Put texts that stand side by side together. -/
def joinPieces : List Piece → List Piece
  | [] => []
  | .text a quoted :: rest =>
    match joinPieces rest with
    | .text b quoted' :: others =>
      if quoted = quoted' then .text (a ++ b) quoted :: others
      else .text a quoted :: .text b quoted' :: others
    | others => .text a quoted :: others
  | piece :: rest => piece :: joinPieces rest

def isQuotedWord (pieces : List Piece) : Bool :=
  pieces.any fun
    | .text _ quoted => quoted
    | _ => false

end AsmLayout.Host
