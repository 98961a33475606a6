import AsmLayout.Host.Process
import AsmLayout.Host.Shell.Arithmetic

/-! # Conditions on texts, numbers and files

A condition is given as words. Signs with one operand ask something of a text or a file, signs between two
operands compare them, and conditions are joined by further signs.
-/

namespace AsmLayout.Host

open Text (Octets)

namespace Condition

/-- The letters of the signs with one operand. -/
def letters : List Char :=
  "bcdefghknprstuwxzGLOS".toList

/-- The signs between two operands. -/
def comparisons : List String :=
  ["=", "!=", "<", ">", "-eq", "-ne", "-gt", "-ge", "-lt", "-le", "-nt", "-ot", "-ef"]

/-- The letter of a sign with one operand. -/
def letter? : Octets → Option Char
  | ['-', c] => if letters.contains c then some c else none
  | _ => none

/-- The sign between two operands that a word is. -/
def comparison? (word : Octets) : Option String :=
  let sign := String.ofList word
  if comparisons.contains sign then some sign else none

/-- A whole number that a word stands for, in the decimal system. -/
def number? (word : Octets) : Option Int :=
  let isSpace (c : Char) : Bool := c == ' ' || ('\t' ≤ c && c ≤ '\r')
  let (negative, unsigned) : Bool × Octets := match word.dropWhile isSpace with
    | '-' :: rest => (true, rest)
    | '+' :: rest => (false, rest)
    | rest => (false, rest)
  let (n, behind) := Arithmetic.digits 10 unsigned
  let greatest := if negative then Arithmetic.greatest + 1 else Arithmetic.greatest
  if behind.length < unsigned.length && behind.all isSpace && n ≤ greatest then
    some (if negative then -n else n)
  else none

/-- Whether what stands at a node has a property. -/
def nodeHas (found : FileSystem) (letter : Char) (id : Nat) : Bool :=
  match letter, found.node id with
  | 'f', .file _ _ | 'f', .program _ _ | 'd', .directory _ _ _ | 'c', .device _ => true
  | 'e', _ | 'G', _ | 'O', _ => true
  | 's', .file bytes _ => !bytes.isEmpty
  | 's', .program _ _ | 's', .directory _ _ _ => true
  | 'r', _ => (found.mode id).canRead
  | 'w', _ => (found.mode id).canWrite
  | 'x', _ => (found.mode id).canRun
  | 'u', _ => (found.mode id).bits.testBit 11
  | 'g', _ => (found.mode id).bits.testBit 10
  | 'k', _ => (found.mode id).bits.testBit 9
  | _, _ => false

/-- Whether an operand has the property that a letter asks for; `none` if it has to be a number and is
    none. -/
def holds (letter : Char) (operand : Octets) : Act (Option Bool) := do
  match letter with
  | 'z' => return some operand.isEmpty
  | 'n' => return some !operand.isEmpty
  | 't' => return (number? operand).map fun _ => false
  | 'h' | 'L' =>
    match ← nodeAt operand false with
    | .error _ => return some false
    | .ok id =>
      match (← files).node id with
      | .link _ => return some true
      | _ => return some false
  | letter =>
    match ← nodeAt operand with
    | .error _ => return some false
    | .ok id => return some (nodeHas (← files) letter id)

/-- Whether one text comes before another one. -/
def before : Octets → Octets → Bool
  | [], [] => false
  | [], _ => true
  | _, [] => false
  | a :: as, b :: bs => if a = b then before as bs else a < b

/-- Whether a comparison of numbers holds. -/
def compareNumbers (sign : String) (a b : Int) : Bool :=
  match sign with
  | "-eq" => a == b
  | "-ne" => a != b
  | "-gt" => b < a
  | "-ge" => b ≤ a
  | "-lt" => a < b
  | _ => a ≤ b

/-- Whether a comparison holds. A word that is no number where one is needed is given back. -/
def compare (sign : String) (a b : Octets) : Act (Except Octets Bool) := do
  match sign with
  | "=" => return .ok (a == b)
  | "!=" => return .ok (a != b)
  | "<" => return .ok (before a b)
  | ">" => return .ok (before b a)
  | "-nt" | "-ot" => return .ok false
  | "-ef" =>
    match ← nodeAt a, ← nodeAt b with
    | .ok m, .ok n => return .ok (m == n)
    | _, _ => return .ok false
  | sign =>
    match number? a, number? b with
    | some m, some n => return .ok (compareNumbers sign m n)
    | none, _ => return .error a
    | _, none => return .error b

inductive Token where
  | ending
  | operand
  | unary (letter : Char)
  | comparison (sign : String)
  | negation
  | conjunction
  | disjunction
  | opening
  | closing
  deriving Repr, DecidableEq

def signOf (word : Octets) : Token :=
  match word with
  | ['!'] => .negation
  | ['('] => .opening
  | [')'] => .closing
  | ['-', 'a'] => .conjunction
  | ['-', 'o'] => .disjunction
  | word =>
    match letter? word, comparison? word with
    | some c, _ => .unary c
    | none, some sign => .comparison sign
    | none, none => .operand

/-- Whether a word is a sign between two operands. -/
def isComparison (word : Octets) : Bool :=
  (comparison? word).isSome

/-- The first token of words. A sign in front of nothing, or of a comparison, is an operand. -/
def tokenOf : List Octets → Token
  | [] => .ending
  | word :: rest =>
    match signOf word, rest with
    | .unary _, [] => .operand
    | .unary c, next :: _ :: _ => if isComparison next then .operand else .unary c
    | .opening, [] => .operand
    | token, _ => token

/-- What reads a condition. It stands at a word, and its mistakes are texts. -/
abbrev Reading := StateT (List Octets) (ExceptT Octets Act)

/-- The token behind the current word. -/
def nextToken : Reading Token :=
  return tokenOf ((← get).drop 1)

/-- Go on to a further word. -/
def skip (n : Nat) : Reading Unit :=
  modify fun words => words.drop n

/-- Tell what is wrong with a word. -/
def mistake {α : Type} (word : Octets) (message : String) : Reading α :=
  throw (if word.isEmpty then message.toList else word ++ ": ".toList ++ message.toList)

/-- Say that a word is no number. -/
def noNumber {α : Type} (word : Octets) : Reading α :=
  throw ("Illegal number: ".toList ++ word)

/-- A condition without signs that join: it stands at the current word, which is the token. `whole` reads
    what stands in parentheses. -/
def primary (whole : Token → Reading Bool) (token : Token) : Reading Bool := do
  match token with
  | .ending => return false
  | .opening =>
    skip 1
    let inner := tokenOf (← get)
    if inner = .closing then return false
    let result ← whole inner
    skip 1
    if tokenOf (← get) != .closing then mistake [] "closing paren expected"
    return result
  | .unary c =>
    let sign := (← get).headD []
    skip 1
    match (← get).head? with
    | none => mistake sign "argument expected"
    | some operand =>
      match ← holds c operand with
      | some result => return result
      | none => noNumber operand
  | _ =>
    let word := (← get).headD []
    match ← nextToken with
    | .comparison sign =>
      skip 2
      match (← get).head? with
      | none => mistake sign.toList "argument expected"
      | some operand =>
        match ← compare sign word operand with
        | .ok result => return result
        | .error word => noNumber word
    | _ => return !word.isEmpty

def negated (whole : Token → Reading Bool) : (fuel : Nat) → Token → Reading Bool
  | fuel + 1, .negation => do
    let inner ← nextToken
    if inner != .ending then skip 1
    return !(← negated whole fuel inner)
  | _, token => primary whole token

/-- Conditions that have to hold together. -/
def both (single : Token → Reading Bool) : (fuel : Nat) → Token → Reading Bool
  | 0, token => single token
  | fuel + 1, token => do
    let first ← single token
    if (← nextToken) != .conjunction then return first
    skip 2
    let others ← both single fuel (tokenOf (← get))
    return first && others

def either (single : Token → Reading Bool) : (fuel : Nat) → Token → Reading Bool
  | 0, token => single token
  | fuel + 1, token => do
    let first ← single token
    if (← nextToken) != .disjunction then return first
    skip 2
    let others ← either single fuel (tokenOf (← get))
    return first || others

/-- A whole condition. The fuel bounds how deep conditions stand inside each other. -/
def whole (bound : Nat) : (fuel : Nat) → Token → Reading Bool
  | 0, _ => mistake [] "closing paren expected"
  | fuel + 1, token =>
    either (both (negated (whole bound fuel) bound) bound) bound token

/-- The words of a condition without parentheses around it, and its first token. -/
def opened (words : List Octets) : List Octets × Token :=
  let stripped := match words.head?, words.getLast? with
    | some ['('], some [')'] => (words.drop 1).dropLast
    | _, _ => words
  match words with
  | [_, sign, _] =>
    if isComparison sign then (words, .operand) else (stripped, tokenOf stripped)
  | [_, _, _, _] => (stripped, tokenOf stripped)
  | _ => (words, tokenOf words)

/-- Whether words are a condition that holds. -/
def check (words : List Octets) : Act (Except Octets Bool) := do
  if words.isEmpty then return .ok false
  let (words, token) := opened words
  let reading : Reading Bool := do
    let result ← whole (words.length + 1) (words.length + 1) token
    match ← get with
    | word :: _ :: _ => mistake word "unexpected operator"
    | _ => return result
  return (← (reading.run words).run).map (·.1)

end Condition

end AsmLayout.Host
