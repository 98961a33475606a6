import AsmLayout.Host.Script

/-! # Arithmetic in scripts

Expressions are over whole numbers of 64 bits that wrap around. They are read first and worked out then,
and only the parts that matter are worked out.
-/

namespace AsmLayout.Host

open Text (Octets)

inductive ArithmeticToken where
  | number (n : Int)
  | name (name : Octets)
  | sign (sign : String)
  deriving Repr, DecidableEq

inductive Arithmetic where
  | number (n : Int)
  | named (name : Octets)
  | unary (sign : String) (operand : Arithmetic)
  | binary (sign : String) (left right : Arithmetic)
  | both (left right : Arithmetic)
  | either (left right : Arithmetic)
  | choice (test whenTrue whenFalse : Arithmetic)
  /-- A variable takes a value, by itself or after an operation on the old one. -/
  | assign (name : Octets) (sign : Option String) (value : Arithmetic)
  deriving Repr, DecidableEq

namespace Arithmetic

def greatest : Nat := 0x7fffffffffffffff

/-- The number of 64 bits that a number wraps around to. -/
def wrap (n : Int) : Int :=
  Int.bmod n 0x10000000000000000

def digitValue? (c : Char) : Option Nat :=
  if '0' ≤ c && c ≤ '9' then some (c.toNat - '0'.toNat)
  else if 'a' ≤ c && c ≤ 'f' then some (c.toNat - 'a'.toNat + 10)
  else if 'A' ≤ c && c ≤ 'F' then some (c.toNat - 'A'.toNat + 10)
  else none

/-- Whether a character is a digit in a base. -/
def isDigitOf (base : Nat) (c : Char) : Bool :=
  match digitValue? c with
  | some n => n < base
  | none => false

/-- The number at the front of a text in a base, and what follows it. -/
def digits (base : Nat) (text : Octets) : Nat × Octets :=
  ((text.takeWhile (isDigitOf base)).foldl (fun n c => n * base + (digitValue? c).getD 0) 0,
    text.dropWhile (isDigitOf base))

/-- The natural number at the front of a text, in the base that its first digits tell, and what follows
    it. -/
def naturalAt (text : Octets) : Nat × Octets :=
  match text with
  | '0' :: x :: d :: rest =>
    if (x = 'x' || x = 'X') && isDigitOf 16 d then digits 16 (d :: rest)
    else digits 8 text
  | '0' :: _ => digits 8 text
  | _ => digits 10 text

/-- The signs of two and more characters, the longest first. -/
def longSigns : List String :=
  ["<<=", ">>=", "==", "!=", "<=", ">=", "<<", ">>", "&&", "||", "*=", "/=", "%=", "+=", "-=",
   "&=", "|=", "^="]

/-- The tokens of an expression. A character without a meaning is a sign of its own. -/
def tokens : (fuel : Nat) → Octets → List ArithmeticToken
  | 0, _ => []
  | _ + 1, [] => []
  | fuel + 1, c :: rest =>
    if c = ' ' || c = '\t' || c = '\n' then tokens fuel rest
    else if '0' ≤ c && c ≤ '9' then
      let (n, behind) := naturalAt (c :: rest)
      .number (min n greatest) :: tokens fuel behind
    else if startsName c then
      .name (c :: rest.takeWhile isNameChar) :: tokens fuel (rest.dropWhile isNameChar)
    else match longSigns.find? fun sign => sign.toList.isPrefixOf (c :: rest) with
      | some sign => .sign sign :: tokens fuel ((c :: rest).drop sign.length)
      | none => .sign (String.singleton c) :: tokens fuel rest

/-- A reader of a part of an expression. -/
abbrev Reader := List ArithmeticToken → Except String (Arithmetic × List ArithmeticToken)

/-- An operand with the signs in front of it. `whole` reads what stands in parentheses. -/
def operand (whole : Reader) : (fuel : Nat) → Reader
  | fuel + 1, .sign sign :: rest =>
    if sign = "(" then do
      let (inside, behind) ← whole rest
      match behind with
      | .sign ")" :: behind => return (inside, behind)
      | _ => throw "expecting ')'"
    else if sign = "+" then operand whole fuel rest
    else if sign = "-" || sign = "!" || sign = "~" then do
      let (inside, behind) ← operand whole fuel rest
      return (.unary sign inside, behind)
    else throw "expecting primary"
  | _, .number n :: rest => return (.number n, rest)
  | _, .name name :: rest => return (.named name, rest)
  | _, _ => throw "expecting primary"

/-- The signs between two operands, those that bind least first. -/
def signLevels : List (List String) :=
  [["|"], ["^"], ["&"], ["==", "!="], ["<", "<=", ">", ">="], ["<<", ">>"], ["+", "-"],
   ["*", "/", "%"]]

/-- Operands with signs of one level between them, from behind the first operand on. -/
def levelFrom (signs : List String) (next : Reader) : (fuel : Nat) → Arithmetic → Reader
  | fuel + 1, left, .sign sign :: rest =>
    if signs.contains sign then do
      let (right, behind) ← next rest
      levelFrom signs next fuel (.binary sign left right) behind
    else return (left, .sign sign :: rest)
  | _, left, rest => return (left, rest)

/-- Operands with signs of some levels between them. -/
def level (single : Reader) : List (List String) → Reader
  | [], text => single text
  | signs :: levels, text => do
    let (left, rest) ← level single levels text
    levelFrom signs (level single levels) (rest.length + 1) left rest

def conjunction (single : Reader) : (fuel : Nat) → Reader
  | 0, text => single text
  | fuel + 1, text => do
    let (left, rest) ← single text
    match rest with
    | .sign "&&" :: rest =>
      let (right, rest) ← conjunction single fuel rest
      return (.both left right, rest)
    | rest => return (left, rest)

def disjunction (single : Reader) : (fuel : Nat) → Reader
  | 0, text => single text
  | fuel + 1, text => do
    let (left, rest) ← single text
    match rest with
    | .sign "||" :: rest =>
      let (right, rest) ← disjunction single fuel rest
      return (.either left right, rest)
    | rest => return (left, rest)

/-- A value that may hang on a condition. -/
def conditional (whole single : Reader) : (fuel : Nat) → Reader
  | 0, text => single text
  | fuel + 1, text => do
    let (test, rest) ← single text
    match rest with
    | .sign "?" :: rest =>
      let (whenTrue, rest) ← whole rest
      match rest with
      | .sign ":" :: rest =>
        let (whenFalse, rest) ← conditional whole single fuel rest
        return (.choice test whenTrue whenFalse, rest)
      | _ => throw "expecting ':'"
    | rest => return (test, rest)

/-- The operation of a sign that sets a variable, if it is one. -/
def assignment? (sign : String) : Option (Option String) :=
  if sign = "=" then some none
  else if ["*=", "/=", "%=", "+=", "-=", "<<=", ">>=", "&=", "|=", "^="].contains sign then
    some (some (sign.dropEnd 1).toString)
  else none

/-- An expression. The fuel bounds how deep expressions stand inside each other. -/
def whole : (fuel : Nat) → Reader
  | 0, _ => throw "expecting primary"
  | fuel + 1, text => do
    let plain : Reader := fun text =>
      let bound := text.length + 1
      let single := level (operand (whole fuel) bound) signLevels
      conditional (whole fuel) (disjunction (conjunction single bound) bound) bound text
    match text with
    | .name name :: .sign sign :: rest =>
      match assignment? sign with
      | some operation =>
        let (value, rest) ← whole fuel rest
        return (.assign name operation value, rest)
      | none => plain text
    | text => plain text

def read (text : Octets) : Except String Arithmetic := do
  let all := tokens (text.length + 1) text
  if all.isEmpty then throw "expecting primary"
  let (found, rest) ← whole (all.length + 1) all
  if rest.isEmpty then return found else throw "expecting EOF"

/-- The number of a truth value. -/
def ofBool (b : Bool) : Int :=
  if b then 1 else 0

def bits (n : Int) : BitVec 64 :=
  BitVec.ofInt 64 n

/-- The result of an operation on two numbers, `none` for a division by zero. -/
def operate (sign : String) (a b : Int) : Option Int :=
  match sign with
  | "+" => some (wrap (a + b))
  | "-" => some (wrap (a - b))
  | "*" => some (wrap (a * b))
  | "/" => if b = 0 then none else some (wrap (a.tdiv b))
  | "%" => if b = 0 then none else some (wrap (a.tmod b))
  | "<<" => some ((bits a).shiftLeft (b.toNat % 64)).toInt
  | ">>" => some ((bits a).sshiftRight (b.toNat % 64)).toInt
  | "<" => some (ofBool (a < b))
  | "<=" => some (ofBool (a ≤ b))
  | ">" => some (ofBool (b < a))
  | ">=" => some (ofBool (b ≤ a))
  | "==" => some (ofBool (a == b))
  | "!=" => some (ofBool (a != b))
  | "&" => some (bits a &&& bits b).toInt
  | "^" => some (bits a ^^^ bits b).toInt
  | _ => some (bits a ||| bits b).toInt

structure Variables (m : Type → Type) where
  value : Octets → m Int
  set : Octets → Int → m Unit
  divisionByZero : m Int

def evaluate {m : Type → Type} [Monad m] (scope : Variables m) : Arithmetic → m Int
  | number n => return n
  | .named name => scope.value name
  | unary sign inside => do
    let n ← evaluate scope inside
    return if sign = "-" then wrap (-n) else if sign = "!" then ofBool (n == 0) else wrap (-n - 1)
  | binary sign left right => do
    let a ← evaluate scope left
    let b ← evaluate scope right
    match operate sign a b with
    | some n => return n
    | none => scope.divisionByZero
  | both left right => do
    if (← evaluate scope left) == 0 then return 0
    return ofBool ((← evaluate scope right) != 0)
  | either left right => do
    if (← evaluate scope left) != 0 then return 1
    return ofBool ((← evaluate scope right) != 0)
  | choice test whenTrue whenFalse => do
    if (← evaluate scope test) != 0 then evaluate scope whenTrue else evaluate scope whenFalse
  | assign name operation value => do
    let b ← evaluate scope value
    let n ← match operation with
      | none => pure b
      | some sign => do
        match operate sign (← scope.value name) b with
        | some n => pure n
        | none => scope.divisionByZero
    scope.set name n
    return n

/-- A number that the text of a variable or an argument stands for: blanks may surround it, and in
    expressions no text at all counts as zero. -/
def integer? (text : Octets) : Option Int :=
  let isSpace (c : Char) : Bool := c == ' ' || ('\t' ≤ c && c ≤ '\r')
  let (negative, unsigned) : Bool × Octets := match text.dropWhile isSpace with
    | '-' :: rest => (true, rest)
    | '+' :: rest => (false, rest)
    | rest => (false, rest)
  let (n, behind) := naturalAt unsigned
  if behind.all isSpace then
    if unsigned.isEmpty && !text.all isSpace then none
    else if n ≤ greatest || (negative && n = greatest + 1) then some (if negative then -n else n)
    else none
  else none

end Arithmetic

end AsmLayout.Host
