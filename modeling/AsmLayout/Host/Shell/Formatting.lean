import AsmLayout.Host.Quotes
import AsmLayout.Host.Shell.Floating

/-! # Formatted text

Backslashes in a text stand for characters that are hard to write. A format lays out its arguments, and is
used again until no argument is left.
-/

namespace AsmLayout.Host

open Text (Octets)

def octalDigit? (c : Char) : Option Nat :=
  if '0' ≤ c && c ≤ '7' then some (c.toNat - '0'.toNat) else none

/-- The byte of the octal number at the front of a text, of so many digits at most, and what follows. -/
def octalByte : (digits : Nat) → (value : Nat) → Octets → Char × Octets
  | digits + 1, value, c :: rest =>
    match octalDigit? c with
    | some n => octalByte digits (value * 8 + n) rest
    | none => (Char.ofNat (value % 256), c :: rest)
  | _, value, rest => (Char.ofNat (value % 256), rest)

/-- The character that a backslash and a letter stand for. -/
def letterEscape? (c : Char) : Option Char :=
  match c with
  | 'a' => some '\x07'
  | 'b' => some '\x08'
  | 'e' => some '\x1b'
  | 'f' => some '\x0c'
  | 'n' => some '\n'
  | 'r' => some '\r'
  | 't' => some '\t'
  | 'v' => some '\x0b'
  | '\\' => some '\\'
  | _ => none

/-- The character that a backslash in a format stands for, with what follows, from behind it on. A backslash
    without a meaning stands for itself. -/
def formatEscape : Octets → Char × Octets
  | [] => ('\\', [])
  | c :: rest =>
    match letterEscape? c with
    | some found => (found, rest)
    | none => if (octalDigit? c).isSome then octalByte 3 0 (c :: rest) else ('\\', c :: rest)

/-- A text with the characters that its backslashes stand for, and whether it ends everything. -/
def unescape : (fuel : Nat) → Octets → Octets × Bool
  | 0, _ | _, [] => ([], false)
  | _ + 1, '\\' :: 'c' :: _ => ([], true)
  | fuel + 1, '\\' :: rest =>
    let (c, behind) := match rest with
      | '0' :: digits => octalByte 3 0 digits
      | rest => formatEscape rest
    let (others, ended) := unescape fuel behind
    (c :: others, ended)
  | fuel + 1, c :: rest =>
    let (others, ended) := unescape fuel rest
    (c :: others, ended)

/-- A text with the characters that its backslashes stand for, and whether it ends everything. -/
def unescaped (text : Octets) : Octets × Bool :=
  unescape (text.length + 1) text

/-- What the words of `echo` print. -/
def echoed (words : List Octets) : Octets :=
  let (words, newline) : List Octets × Bool := match words with
    | ['-', 'n'] :: rest => (rest, false)
    | words => (words, true)
  let rec go : List Octets → Octets × Bool
    | [] => ([], false)
    | [word] => unescaped word
    | word :: rest =>
      let (text, ended) := unescaped word
      if ended then (text, true)
      else
        let (others, ended) := go rest
        (text ++ ' ' :: others, ended)
  let (text, ended) := go words
  if newline && !ended then text ++ ['\n'] else text

structure Layout where
  flags : List Char := []
  width : Nat := 0
  precision : Option Nat := none
  deriving Repr, DecidableEq

namespace Layout

def has (layout : Layout) (flag : Char) : Bool :=
  layout.flags.contains flag

/-- A text with blanks up to the width. -/
def pad (layout : Layout) (text : Octets) : Octets :=
  let blanks := List.replicate (layout.width - text.length) ' '
  if layout.has '-' then text ++ blanks else blanks ++ text

/-- A number, as what stands in front and its digits, with blanks or zeros up to the width. -/
def padNumber (layout : Layout) (zeros : Bool) (front digits : Octets) : Octets :=
  if layout.has '0' && zeros && !layout.has '-' then
    let count := layout.width - (front.length + digits.length)
    front ++ List.replicate count '0' ++ digits
  else layout.pad (front ++ digits)

def sign (layout : Layout) (negative : Bool) : Octets :=
  if negative then ['-']
  else if layout.has '+' then ['+']
  else if layout.has ' ' then [' ']
  else []

/-- Digits with zeros in front up to the precision; zero has no digits if the precision is zero. -/
def digits (layout : Layout) (text : Octets) : Octets :=
  match layout.precision with
  | none => text
  | some 0 => if text == ['0'] then [] else text
  | some n => List.replicate (n - text.length) '0' ++ text

/-- A whole number in the decimal system. -/
def integer (layout : Layout) (n : Int) : Octets :=
  layout.padNumber layout.precision.isNone (layout.sign (n < 0))
    (layout.digits (Text.decimal n.natAbs))

/-- A natural number in the way that a letter tells. -/
def natural (layout : Layout) (letter : Char) (n : Nat) : Octets :=
  let base := if letter = 'o' then 8 else if letter = 'u' then 10 else 16
  let plain := Nat.toDigits base n
  let digits := layout.digits (if letter = 'X' then plain.map Char.toUpper else plain)
  let marked := layout.has '#' && n != 0
  let front : Octets := if marked && letter = 'x' then ['0', 'x']
    else if marked && letter = 'X' then ['0', 'X'] else []
  let digits := if layout.has '#' && letter = 'o' && digits.head? != some '0' then '0' :: digits
    else digits
  layout.padNumber layout.precision.isNone front digits

/-- A number with a fraction in the way that a letter tells. -/
def floating (layout : Layout) (format : FloatFormat) (letter : Char) (number : Floating) :
    Octets :=
  let digits := number.render format letter layout.precision (layout.has '#')
  let isFinite := match number.size with
    | .finite _ _ => true
    | _ => false
  let marked := isFinite && letter.toLower = 'a'
  let front := if marked then ['0', if letter = 'a' then 'x' else 'X'] else []
  layout.padNumber isFinite (layout.sign number.negative ++ front) digits

/-- A text, cut at the precision. -/
def text (layout : Layout) (text : Octets) : Octets :=
  layout.pad (match layout.precision with
    | some n => text.take n
    | none => text)

end Layout

inductive FormatEnd where
  /-- An argument said so. -/
  | asked
  | mistake (message : String)
  deriving Repr, DecidableEq

/-- What a format can ask for. -/
structure FormatRules where
  /-- How numbers with a fraction are held. -/
  floats : FloatFormat
  /-- Whether backslashes can stand for any byte and texts can be quoted. -/
  full : Bool
  deriving Repr, DecidableEq

def FormatRules.shell : FormatRules := ⟨.double, false⟩

def FormatRules.tool : FormatRules := ⟨.extended, true⟩

inductive Misfit where
  | noNumber
  | incomplete
  | outOfRange
  /-- There is something behind the character whose number was asked for. -/
  | ignored
  deriving Repr, DecidableEq

structure FormatWarning where
  /-- The length of the output so far. -/
  position : Nat
  argument : Octets
  misfit : Misfit
  deriving Repr, DecidableEq

/-- The state of what lays out arguments. -/
structure Formatting where
  arguments : List Octets
  rules : FormatRules
  /-- The parts of what is printed, the last one first. -/
  printed : List Octets := []
  warnings : List FormatWarning := []
  deriving Repr, DecidableEq

def Formatting.output (s : Formatting) : Octets :=
  s.printed.reverse.flatten

abbrev Formatter := ExceptT FormatEnd (StateM Formatting)

def putOut (text : Octets) : Formatter Unit :=
  modify fun s => { s with printed := text :: s.printed }

def nextArgument? : Formatter (Option Octets) :=
  modifyGet fun s => (s.arguments.head?, { s with arguments := s.arguments.drop 1 })

/-- Tell that an argument does not fit. -/
def warnOf (argument : Octets) (misfit : Misfit) : Formatter Unit :=
  modify fun s =>
    { s with warnings := s.warnings ++ [{ position := s.output.length, argument, misfit }] }

/-- Tell what is wrong with the end of a number. -/
def checkBehind (argument unsigned behind : Octets) : Formatter Unit := do
  if behind.length = unsigned.length then warnOf argument .noNumber
  else if !behind.isEmpty then warnOf argument .incomplete

/-- The number of the character behind a quote, if the argument asks for one. -/
def characterNumber? (argument : Octets) : Formatter (Option Nat) := do
  let full := (← get).rules.full
  match argument with
  | c :: rest =>
    if !(c = '"' || c = '\'') then return none
    match rest with
    | [] => if full then return none else return some 0
    | c :: behind =>
      if full && !behind.isEmpty then warnOf behind .ignored
      return some c.toNat
  | [] => return none

/-- The next argument as a number. Without a sign in the format a negative number wraps around. -/
def nextNumber (signed : Bool) : Formatter Int := do
  match ← nextArgument? with
  | none => return 0
  | some [] => return 0
  | some argument =>
    if let some n ← characterNumber? argument then return n
    let (negative, unsigned) := match argument.dropWhile Char.isWhitespace with
      | '-' :: rest => (true, rest)
      | '+' :: rest => (false, rest)
      | rest => (false, rest)
    let (n, behind) := Arithmetic.naturalAt unsigned
    checkBehind argument unsigned behind
    let bound := if signed then Arithmetic.greatest + (if negative then 1 else 0)
      else 2 * Arithmetic.greatest + 1
    if bound < n && behind.isEmpty then warnOf argument .outOfRange
    let n : Int := min n bound
    let value := if negative then -n else n
    return if signed then value else value % 0x10000000000000000

/-- The next argument as a number with a fraction. -/
def nextFloating : Formatter Floating := do
  match ← nextArgument? with
  | none => return .ofNat 0
  | some argument =>
    if let some n ← characterNumber? argument then return .ofNat n
    let (negative, unsigned) := match argument.dropWhile Char.isWhitespace with
      | '-' :: rest => (true, rest)
      | '+' :: rest => (false, rest)
      | rest => (false, rest)
    match Floating.unsignedAt (← get).rules.floats unsigned with
    | none =>
      if !argument.isEmpty then warnOf argument .noNumber
      return .ofNat 0
    | some (size, outside, behind) =>
      if !behind.isEmpty then warnOf argument .incomplete
      else if outside then warnOf argument .outOfRange
      return ⟨negative, size⟩

/-- The digits at the front of a format as a number, or the next argument for a star. -/
def layoutNumber (format : Octets) : Formatter (Int × Octets) := do
  match format with
  | '*' :: rest => return (← nextNumber true, rest)
  | format =>
    let (n, rest) := Arithmetic.digits 10 format
    return (n, rest)

/-- The layout at the front of a directive, from behind the percent sign on, and what follows it. -/
def layoutAt (format : Octets) : Formatter (Layout × Octets) := do
  let full := (← get).rules.full
  let isFlag (c : Char) : Bool :=
    c == '#' || c == '-' || c == '+' || c == ' ' || c == '0' || (full && c == '\'')
  let flags := format.takeWhile isFlag
  let (width, rest) ← layoutNumber (format.drop flags.length)
  let flags := if width < 0 then '-' :: flags else flags
  let layout : Layout := { flags, width := width.natAbs }
  match rest with
  | '.' :: rest =>
    let (precision, rest) ← layoutNumber rest
    return ({ layout with precision := if precision < 0 then none else some precision.toNat }, rest)
  | rest => return (layout, rest)

/-- A number in base 16 with so many digits. -/
def hexDigits (count n : Nat) : Octets :=
  let digits := (Nat.toDigits 16 n).map Char.toUpper
  List.replicate (count - digits.length) '0' ++ digits

/-- The hexadecimal number at the front of a text, of so many digits at most, and what follows. -/
def hexAt (most : Nat) (text : Octets) : Formatter (Nat × Octets) := do
  let digits := (text.take most).takeWhile (Arithmetic.isDigitOf 16)
  if digits.isEmpty then throw (.mistake "missing hexadecimal number in escape")
  return ((Arithmetic.digits 16 digits).1, text.drop digits.length)

/-- What a backslash in a text for a tool stands for, with what follows, from behind it on. Octal numbers
    may have a zero in front that does not count. -/
def fullEscape (zeroFirst : Bool) (text : Octets) : Formatter (Octets × Octets) := do
  match text with
  | 'c' :: _ => throw .asked
  | '"' :: rest => return (['"'], rest)
  | 'x' :: rest =>
    let (n, rest) ← hexAt 2 rest
    return ([Char.ofNat n], rest)
  | c :: rest =>
    if c = 'u' || c = 'U' then
      let most := if c = 'u' then 4 else 8
      let digits := (rest.take most).takeWhile (Arithmetic.isDigitOf 16)
      if digits.length < most then throw (.mistake "missing hexadecimal number in escape")
      let (n, rest) ← hexAt most rest
      if 0xD800 ≤ n && n < 0xE000 || 0x110000 ≤ n then
        throw (.mistake ("invalid universal character name \\" ++ String.ofList (c :: digits)))
      if n < 128 then return ([Char.ofNat n], rest)
      return (if n < 0x10000 then ['\\', 'u'] ++ hexDigits 4 n else ['\\', 'U'] ++ hexDigits 8 n, rest)
    else if c = '0' && zeroFirst then
      let (c, rest) := octalByte 3 0 rest
      return ([c], rest)
    else
      let (c, rest) := formatEscape text
      return ([c], rest)
  | [] => return (['\\'], [])

/-- The text of an argument for a tool with its escapes. -/
def printEscaped : (fuel : Nat) → Octets → Formatter Unit
  | 0, _ | _, [] => return ()
  | fuel + 1, '\\' :: rest => do
    let (text, rest) ← fullEscape true rest
    putOut text
    printEscaped fuel rest
  | fuel + 1, c :: rest => do
    putOut [c]
    printEscaped fuel rest

/-- Whether a tool can lay out something in the way that a letter tells. -/
def Layout.allows (layout : Layout) (letter : Char) : Bool :=
  !((layout.has '#' && "cdisu".toList.contains letter) || (layout.has '0' && "cs".toList.contains letter) ||
    (layout.has '\'' && "aAceEosxX".toList.contains letter) || (layout.precision.isSome && letter = 'c') ||
    letter = 'b')

/-- Lay out the next argument in the way that a letter tells. -/
def convert (layout : Layout) (letter : Char) : Formatter Bool := do
  if (← get).rules.full && !layout.allows letter then return false
  match letter with
  | 's' => putOut (layout.text ((← nextArgument?).getD []))
  | 'b' =>
    let (text, ended) := unescaped ((← nextArgument?).getD [])
    putOut (layout.text text)
    if ended then throw .asked
  | 'c' => putOut (layout.pad [((← nextArgument?).getD []).headD '\x00'])
  | 'd' | 'i' => putOut (layout.integer (← nextNumber true))
  | 'o' | 'u' | 'x' | 'X' => putOut (layout.natural letter (← nextNumber false).toNat)
  | 'a' | 'A' | 'e' | 'E' | 'f' | 'F' | 'g' | 'G' =>
    let number ← nextFloating
    putOut (layout.floating (← get).rules.floats letter number)
  | _ => return false
  return true

def useFormat : (fuel : Nat) → (format : Octets) → Formatter Unit
  | 0, _ | _, [] => return ()
  | fuel + 1, '\\' :: rest => do
    let (text, rest) ←
      if (← get).rules.full then fullEscape false rest
      else
        let (c, rest) := formatEscape rest
        pure ([c], rest)
    putOut text
    useFormat fuel rest
  | fuel + 1, '%' :: '%' :: rest => do
    putOut ['%']
    useFormat fuel rest
  | fuel + 1, '%' :: rest => do
    let full := (← get).rules.full
    match full, rest with
    | true, 'b' :: behind =>
      let text := (← nextArgument?).getD []
      printEscaped (text.length + 1) text
      useFormat fuel behind
    | true, 'q' :: behind =>
      match ← nextArgument? with
      | some text => putOut (if needsQuotes text then inQuotes text else text)
      | none => pure ()
      useFormat fuel behind
    | _, _ =>
      let (layout, behind) ← layoutAt rest
      let behind := if full then behind.dropWhile fun c => "hlLjtz".toList.contains c else behind
      let isKnown ← match behind with
        | [] => if full then pure false else throw (.mistake "missing format character")
        | letter :: _ => convert layout letter
      if isKnown then useFormat fuel (behind.drop 1)
      else
        let directive := '%' :: rest.take (rest.length - (behind.drop 1).length)
        throw (.mistake (String.ofList directive ++ (if full then ": invalid conversion specification"
          else ": invalid directive")))
  | fuel + 1, c :: rest => do
    putOut [c]
    useFormat fuel rest

/-- Use a format until no argument is left, or none was taken. -/
def useFormatAgain (format : Octets) : (fuel : Nat) → Formatter Unit
  | 0 => return ()
  | fuel + 1 => do
    let before := (← get).arguments.length
    useFormat (format.length + 1) format
    let behind := (← get).arguments.length
    if behind != 0 && behind < before then useFormatAgain format fuel

/-- Lay out arguments; gives what is wrong with the format, if anything is. -/
def formatted (rules : FormatRules) (format : Octets) (arguments : List Octets) :
    Option String × Formatting :=
  let (result, s) := (useFormatAgain format (arguments.length + 1)).run.run { arguments, rules }
  match result with
  | .error (.mistake message) => (some message, s)
  | .error .asked | .ok () => (none, s)

end AsmLayout.Host
