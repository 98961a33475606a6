import AsmLayout.Json.Problem

/-! # Strings of JSON

Strings are read from behind their opening quote. They are written with escapes for quotes, backslashes
and control characters only.
-/

namespace AsmLayout.Json

inductive Reading where
  /-- The value is kept. Numbers have to be in range, escapes have to name characters, and so many
      arrays and objects may be opened inside each other. -/
  | kept (room : Nat)
  /-- The value is skipped, with none of these checks. -/
  | skipped
  deriving Repr, DecidableEq

/-- How the inside of an array or object is read. -/
def Reading.enter : Reading → Except Problem Reading
  | kept 0 => .error .malformed
  | kept (room + 1) => .ok (kept room)
  | skipped => .ok skipped

def letterEscape? : Char → Option Char
  | '"' => some '"'
  | '\\' => some '\\'
  | '/' => some '/'
  | 'b' => some '\x08'
  | 'f' => some '\x0c'
  | 'n' => some '\n'
  | 'r' => some '\r'
  | 't' => some '\t'
  | _ => none

/-- The value of a hexadecimal digit. -/
def hexValue? (c : Char) : Option Nat :=
  if '0' ≤ c ∧ c ≤ '9' then some (c.toNat - '0'.toNat)
  else if 'a' ≤ c ∧ c ≤ 'f' then some (c.toNat - 'a'.toNat + 10)
  else if 'A' ≤ c ∧ c ≤ 'F' then some (c.toNat - 'A'.toNat + 10)
  else none

/-- Four hexadecimal digits. The text has ended early if it has fewer than four bytes of UTF-8 left,
    whatever they are. -/
def fourDigits (cs : List Char) : Except Problem Nat :=
  if (String.ofList (cs.take 4)).utf8ByteSize < 4 then .error .truncated
  else match (cs.take 4).map hexValue? with
    | [some a, some b, some c, some d] => .ok (((a * 16 + b) * 16 + c) * 16 + d)
    | _ => .error .malformed

/-- The first half of a pair that stands for one character. -/
def isHighSurrogate (unit : Nat) : Bool :=
  0xD800 ≤ unit && unit ≤ 0xDBFF

/-- The second half of a pair. -/
def isLowSurrogate (unit : Nat) : Bool :=
  0xDC00 ≤ unit && unit ≤ 0xDFFF

/-- The second half of a pair, from the backslash of its escape on. -/
def lowSurrogate : List Char → Except Problem Nat
  | [] => .error .truncated
  | '\\' :: [] => .error .truncated
  | '\\' :: 'u' :: cs =>
    match fourDigits cs with
    | .ok unit => if isLowSurrogate unit then .ok unit else .error .malformed
    | .error problem => .error problem
  | _ => .error .malformed

/-- The character of an escape, from behind the backslash on, and the length of the escape there. A
    skipped escape of half a pair stands for any character. -/
def escape (reading : Reading) : List Char → Except Problem (Char × Nat)
  | [] => .error .truncated
  | 'u' :: cs =>
    match fourDigits cs with
    | .error problem => .error problem
    | .ok unit =>
      if reading = .skipped then .ok (Char.ofNat unit, 5)
      else if isLowSurrogate unit then .error .malformed
      else if isHighSurrogate unit then
        match lowSurrogate (cs.drop 4) with
        | .error problem => .error problem
        | .ok low =>
          .ok (Char.ofNat (0x10000 + (unit - 0xD800) * 0x400 + (low - 0xDC00)), 11)
      else .ok (Char.ofNat unit, 5)
  | c :: _ =>
    match letterEscape? c with
    | some d => .ok (d, 1)
    | none => .error .malformed

/-- The characters of a string, from behind its opening quote on, and what follows the closing one. -/
def quoted (reading : Reading) : List Char → Except Problem (List Char × List Char)
  | [] => .error .truncated
  | c :: cs =>
    if c = '"' then .ok ([], cs)
    else if c = '\\' then
      match escape reading cs with
      | .error problem => .error problem
      | .ok (d, length) =>
        match quoted reading (cs.drop length) with
        | .error problem => .error problem
        | .ok (text, rest) => .ok (d :: text, rest)
    else if c.toNat < 0x20 then .error .malformed
    else
      match quoted reading cs with
      | .error problem => .error problem
      | .ok (text, rest) => .ok (c :: text, rest)
termination_by cs => cs.length
decreasing_by
  · simp only [List.length_drop, List.length_cons]
    omega
  · simp

/-- The lower-case hexadecimal digit of a number below 16. -/
def hexDigit (n : Nat) : Char :=
  if n < 10 then Char.ofNat ('0'.toNat + n) else Char.ofNat ('a'.toNat + (n - 10))

/-- How a character is written in a string. -/
def writeChar (c : Char) : List Char :=
  match c with
  | '"' => ['\\', '"']
  | '\\' => ['\\', '\\']
  | '\x08' => ['\\', 'b']
  | '\x0c' => ['\\', 'f']
  | '\n' => ['\\', 'n']
  | '\r' => ['\\', 'r']
  | '\t' => ['\\', 't']
  | c =>
    if c.toNat < 0x20 then
      ['\\', 'u', '0', '0', hexDigit (c.toNat / 16), hexDigit (c.toNat % 16)]
    else [c]

def writeText (text : String) : String :=
  String.ofList ('"' :: (text.toList.flatMap writeChar ++ ['"']))

end AsmLayout.Json
