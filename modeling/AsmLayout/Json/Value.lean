import AsmLayout.Json.Number
import AsmLayout.Json.Quoted

/-! # Values of JSON

Readers take a text and give a value with the text behind it. Of arrays and objects only that they are
well-formed is found out here; what their insides mean is up to the caller's steps.
-/

namespace AsmLayout.Json

/-- A value seen from outside. -/
inductive Value where
  | null
  | bool (b : Bool)
  | number (n : Number)
  | text (s : String)
  | array
  | object
  deriving Repr, DecidableEq

abbrev Reader (α : Type) := List Char → Except Problem (α × List Char)

/-- Whether a character may stand between tokens. -/
def isSpace (c : Char) : Bool :=
  c == ' ' || c == '\t' || c == '\n' || c == '\r'

def skipSpaces (cs : List Char) : List Char :=
  cs.dropWhile isSpace

/-- The rest of a word whose first letter has been seen. -/
def expect (letters : List Char) (value : Value) : Reader Value :=
  match letters with
  | [] => fun cs => .ok (value, cs)
  | letter :: letters => fun
    | [] => .error .truncated
    | c :: cs => if c = letter then expect letters value cs else .error .malformed

/-- A colon between the key of a member and its value. -/
def colon (cs : List Char) : Except Problem (List Char) :=
  match skipSpaces cs with
  | [] => .error .truncated
  | ':' :: rest => .ok rest
  | _ => .error .malformed

/-- The elements of an array from behind its bracket, or behind an element, on. Each element is read by
    `step` from what the ones before it gave. The fuel bounds the number of elements. -/
def elements {σ : Type} (step : σ → Reader σ) : (fuel : Nat) → (first : Bool) → σ → Reader σ
  | 0, _, _, _ => .error .truncated
  | fuel + 1, first, state, cs =>
    let next (cs : List Char) : Except Problem (σ × List Char) := do
      let (state, cs) ← step state cs
      elements step fuel false state cs
    match skipSpaces cs with
    | [] => .error .truncated
    | ']' :: rest => .ok (state, rest)
    | c :: rest =>
      if first then next (c :: rest)
      else if c = ',' then next rest
      else .error .malformed

/-- The members of an object from behind its brace, or behind a member, on. Each member is read by
    `step` from its key and what the ones before it gave, from behind the key on. The fuel bounds the
    number of members. -/
def members {σ : Type} (reading : Reading) (step : σ → String → Reader σ) :
    (fuel : Nat) → (first : Bool) → σ → Reader σ
  | 0, _, _, _ => .error .truncated
  | fuel + 1, first, state, cs =>
    let next (cs : List Char) : Except Problem (σ × List Char) :=
      match skipSpaces cs with
      | [] => .error .truncated
      | '"' :: rest => do
        let (key, cs) ← quoted reading rest
        let (state, cs) ← step state (String.ofList key) cs
        members reading step fuel false state cs
      | _ => .error .malformed
    match skipSpaces cs with
    | [] => .error .truncated
    | '}' :: rest => .ok (state, rest)
    | c :: rest =>
      if first then next (c :: rest)
      else if c = ',' then next rest
      else .error .malformed

/-- A value. The fuel bounds how deep arrays and objects are opened inside each other. -/
def valueWithin (reading : Reading) : (fuel : Nat) → Reader Value
  | 0, _ => .error .truncated
  | fuel + 1, cs =>
    match skipSpaces cs with
    | [] => .error .truncated
    | 'n' :: rest => expect ['u', 'l', 'l'] .null rest
    | 't' :: rest => expect ['r', 'u', 'e'] (.bool true) rest
    | 'f' :: rest => expect ['a', 'l', 's', 'e'] (.bool false) rest
    | '"' :: rest => do
      let (text, rest) ← quoted reading rest
      return (.text (String.ofList text), rest)
    | '[' :: rest => do
      let inner ← reading.enter
      let step (_ : Unit) (cs : List Char) : Except Problem (Unit × List Char) :=
        (valueWithin inner fuel cs).map fun (_, cs) => ((), cs)
      let ((), rest) ← elements step (rest.length + 1) true () rest
      return (.array, rest)
    | '{' :: rest => do
      let inner ← reading.enter
      let step (_ : Unit) (_ : String) (cs : List Char) : Except Problem (Unit × List Char) := do
        (valueWithin inner fuel (← colon cs)).map fun (_, cs) => ((), cs)
      let ((), rest) ← members inner step (rest.length + 1) true () rest
      return (.object, rest)
    | c :: rest =>
      if c = '-' || isDigit c then
        if reading = .skipped then
          (skipNumber (c :: rest)).map fun rest => (.number .other, rest)
        else (number (c :: rest)).map fun (n, rest) => (.number n, rest)
      else .error .malformed

def value (reading : Reading) : Reader Value := fun cs =>
  valueWithin reading (cs.length + 1) cs

/-- How a document is read: with room for 127 arrays and objects inside each other. -/
def document : Reading :=
  .kept 127

/-- A value that is neither an array nor an object and that `pick` has a meaning for. Arrays and objects
    are refused as soon as they are met, other values after they have been read. -/
def scalar {α : Type} (pick : Value → Option α) : Reader α := fun cs =>
  match skipSpaces cs with
  | '[' :: _ => .error .mismatched
  | '{' :: _ => .error .mismatched
  | cs => do
    let (found, rest) ← value document cs
    match pick found with
    | some a => return (a, rest)
    | none => throw .mismatched

def Value.bool? : Value → Option Bool
  | bool b => some b
  | _ => none

/-- The meaning of a value as a natural number of 64 bits. -/
def Value.natural? : Value → Option Nat
  | number (.natural n) => some n
  | _ => none

def Value.text? : Value → Option String
  | text s => some s
  | _ => none

/-- The meaning of a value as a string that may be missing. -/
def Value.optionalText? : Value → Option (Option String)
  | null => some none
  | text s => some (some s)
  | _ => none

/-- Anything but a value of the right shape: what is no JSON is still reported as such. -/
def refuse {α : Type} : Reader α :=
  scalar fun _ => none

/-- An object whose members are read in turn. -/
def object {σ : Type} (step : σ → String → Reader σ) (start : σ) : Reader σ := fun cs =>
  match skipSpaces cs with
  | '{' :: rest => members document step (rest.length + 1) true start rest
  | cs => refuse cs

/-- An array whose elements are read in turn. -/
def array {σ : Type} (step : σ → Reader σ) (start : σ) : Reader σ := fun cs =>
  match skipSpaces cs with
  | '[' :: rest => elements step (rest.length + 1) true start rest
  | cs => refuse cs

def nameIn {α : Type} (table : List (String × α)) : Reader α :=
  scalar fun v => v.text?.bind fun name => table.lookup name

/-- A name out of a table, as a string or as the only key of an object whose value is null. A key that is
    no string is no JSON at all. -/
def choice {α : Type} (table : List (String × α)) : Reader α := fun cs =>
  match skipSpaces cs with
  | [] => .error .truncated
  | '"' :: _ => nameIn table cs
  | '{' :: rest => do
    match skipSpaces rest with
    | [] => throw .truncated
    | '"' :: _ =>
      let (found, rest) ← nameIn table rest
      let (_, rest) ← scalar (fun v => if v = .null then some () else none) (← colon rest)
      match skipSpaces rest with
      | [] => throw .truncated
      | '}' :: rest => return (found, rest)
      | _ => throw .malformed
    | _ => throw .malformed
  | _ => .error .malformed

/-- Read a whole text: nothing but spaces may follow the value. -/
def readAll {α : Type} (reader : Reader α) (text : String) : Except Problem α := do
  let (a, rest) ← reader text.toList
  if (skipSpaces rest).isEmpty then return a else throw .malformed

end AsmLayout.Json
