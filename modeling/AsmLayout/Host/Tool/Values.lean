import AsmLayout.Host.Regex.Reader
import AsmLayout.Host.Shell.Condition
import AsmLayout.Host.Shell.Formatting
import AsmLayout.Host.Shell.Builtin.Flow
import AsmLayout.Host.Tool.Files

/-! # Tools that work on their words -/

namespace AsmLayout.Host

open Text (Octets)

/-- Do nothing and succeed or fail. -/
def always (status : Nat) : Tool := fun _ _ _ => return .exited status

/-- The byte of the hexadecimal number at the front of a text, if there is one, and what follows. -/
def hexByte? (text : Octets) : Option (Char × Octets) :=
  let digits := (text.take 2).takeWhile (Arithmetic.isDigitOf 16)
  if digits.isEmpty then none
  else some (Char.ofNat (Arithmetic.digits 16 digits).1, text.drop digits.length)

/-- A text with the characters that its backslashes stand for, hexadecimal numbers included, and whether it
    ends everything. -/
def unescapeFully : (fuel : Nat) → Octets → Octets × Bool
  | 0, _ | _, [] => ([], false)
  | _ + 1, '\\' :: 'c' :: _ => ([], true)
  | fuel + 1, '\\' :: rest =>
    let (c, behind) := match rest with
      | '0' :: digits => octalByte 3 0 digits
      | 'x' :: digits => (hexByte? digits).getD ('\\', rest)
      | rest => formatEscape rest
    let (others, ended) := unescapeFully fuel behind
    (c :: others, ended)
  | fuel + 1, c :: rest =>
    let (others, ended) := unescapeFully fuel rest
    (c :: others, ended)

/-- Print words; backslashes stand for something only if that is asked for. -/
def echoWords : Tool := fun _ _ words => do
  let isOption (word : Octets) : Bool := match word with
    | '-' :: c :: letters => (c :: letters).all fun c => c == 'n' || c == 'e' || c == 'E'
    | _ => false
  let options := words.takeWhile isOption
  let letters := options.flatten
  let newline := !letters.contains 'n'
  let escapes := (letters.reverse.find? fun c => c == 'e' || c == 'E') == some 'e'
  let text := Text.joinWith ' ' (words.drop options.length)
  let (text, ended) := if escapes then unescapeFully (text.length + 1) text else (text, false)
  print (if newline && !ended then text ++ ['\n'] else text)
  return .exited 0

def printFormat : Tool := fun _ name words => do
  match words with
  | [] | [['-', '-']] =>
    complainOfWords name (ascii "missing operand")
    return .exited 1
  | format :: arguments =>
    let (format, arguments) := if format == ['-', '-'] then (arguments.headD [], arguments.drop 1)
      else (format, arguments)
    let (mistake, formatting) := formatted .tool format arguments
    let mut printed := 0
    for warning in formatting.warnings do
      print ((formatting.output.take warning.position).drop printed)
      printed := warning.position
      complainAs name (match warning.misfit with
        | .noNumber => inMarks warning.argument ++ ascii ": expected a numeric value"
        | .incomplete => inMarks warning.argument ++ ascii ": value not completely converted"
        | .outOfRange => inMarks warning.argument ++ ascii ": Numerical result out of range"
        | .ignored => ascii "warning: " ++ warning.argument ++
          ascii ": character(s) following character constant have been ignored")
    print (formatting.output.drop printed)
    match mistake with
    | some message =>
      complainAs name (ascii message)
      return .exited 1
    | none =>
      if formatting.arguments.length == arguments.length && !arguments.isEmpty then
        complainAs name (ascii "warning: ignoring excess arguments, starting with " ++
          inMarks (arguments.headD []))
      return .exited (if formatting.warnings.all (·.misfit = .ignored) then 0 else 1)

namespace Condition

/-- What reads a condition of a tool: it stands in front of words, and its mistakes are texts. -/
abbrev Strict := StateT (List Octets) (ExceptT Octets Act)

/-- A comparison or its like, as an answer or a mistake. -/
def strictCompare (sign : String) (a b : Octets) : Strict Bool := do
  match ← compare (if sign = "==" then "=" else sign) a b with
  | .ok result => return result
  | .error word => throw (ascii "invalid integer " ++ inMarks word)

/-- A question of one operand, as an answer or a mistake. -/
def strictHolds (letter : Char) (operand : Octets) : Strict Bool := do
  match ← holds letter operand with
  | some result => return result
  | none => throw (ascii "invalid integer " ++ inMarks operand)

/-- Whether a word is a sign between two operands. -/
def isStrictSign (word : Octets) : Bool :=
  isComparison word || word == ascii "=="

/-- Say that something is missing behind a word. -/
def missingBehind {α : Type} (word : Octets) : Strict α :=
  throw (ascii "missing argument after " ++ inMarks word)

/-- A condition at the front of words. `whole` reads what stands in parentheses. -/
def term (whole : Strict Bool) : (fuel : Nat) → (last : Octets) → Strict Bool
  | 0, last => missingBehind last
  | fuel + 1, last => do
    match ← get with
    | [] => missingBehind last
    | ['!'] :: rest =>
      set rest
      return !(← term whole fuel ['!'])
    | ['('] :: rest =>
      set rest
      let result ← whole
      match ← get with
      | [')'] :: rest =>
        set rest
        return result
      | [] => throw (ascii "')' expected")
      | found :: _ => throw (ascii "')' expected, found " ++ found)
    | a :: sign :: b :: rest =>
      if isStrictSign sign then
        set rest
        strictCompare (String.ofList sign) a b
      else match letter? a with
        | some c =>
          set (b :: rest)
          strictHolds c sign
        | none =>
          set (sign :: b :: rest)
          return !a.isEmpty
    | [a, b] =>
      if isStrictSign b then missingBehind b
      match letter? a with
      | some c =>
        set ([] : List Octets)
        strictHolds c b
      | none =>
        set [b]
        return !a.isEmpty
    | [a] =>
      set ([] : List Octets)
      return !a.isEmpty

/-- Conditions joined by one of two signs. -/
def joined (sign : Octets) (combine : Bool → Bool → Bool) (single : Octets → Strict Bool) :
    (fuel : Nat) → (last : Octets) → Strict Bool
  | 0, last => single last
  | fuel + 1, last => do
    let first ← single last
    match ← get with
    | word :: rest =>
      if word == sign then
        set rest
        let others ← joined sign combine single fuel word
        return combine first others
      return first
    | [] => return first

def strictWhole : (fuel : Nat) → Strict Bool
  | 0 => missingBehind []
  | fuel + 1 => do
    let bound := (← get).length + 1
    joined ['-', 'o'] (· || ·)
      (joined ['-', 'a'] (· && ·) (term (strictWhole fuel) bound) bound) bound []

/-- Words that are a condition by their number, or any condition. -/
def strictWords (words : List Octets) : Strict Bool := do
  match words with
  | [] => return false
  | [a] => return !a.isEmpty
  | [a, b] =>
    if a == ['!'] then return b.isEmpty
    match a, letter? a with
    | _, some c => strictHolds c b
    | ['-', _], none => throw (inMarks a ++ ascii ": unary operator expected")
    | _, none => missingBehind b
  | [a, sign, b] =>
    if isStrictSign sign then strictCompare (String.ofList sign) a b
    else if a == ['!'] then return !(← strictWords [sign, b])
    else if a == ['('] && b == [')'] then return !sign.isEmpty
    else if sign == ['-', 'a'] then return !a.isEmpty && !b.isEmpty
    else if sign == ['-', 'o'] then return !a.isEmpty || !b.isEmpty
    else throw (inMarks sign ++ ascii ": binary operator expected")
  | words =>
    set words
    let result ← strictWhole (words.length + 1)
    match ← get with
    | [] => return result
    | extra :: _ => throw (ascii "extra argument " ++ inMarks extra)

/-- Look at a condition as a tool does; gives the status. -/
def strictStatus (name : Octets) (words : List Octets) : Act Nat := do
  match ← ((strictWords words).run words).run with
  | .ok (true, _) => return 0
  | .ok (false, _) => return 1
  | .error message =>
    complainAs name message
    return 2

end Condition

/-- Look at a condition, which stands in brackets or not. -/
def testCondition (bracketed : Bool) : Tool := fun _ name words => do
  if !bracketed then return .exited (← Condition.strictStatus name words)
  else if words.getLast? = some [']'] then
    return .exited (← Condition.strictStatus name words.dropLast)
  else
    complainAs name (ascii "missing ']'")
    return .exited 2

/-- The last name of a path, without an ending. -/
def baseName (path ending : Octets) : Octets :=
  let name := lastName path
  let name := if name.isEmpty && path.head? = some '/' then ['/'] else name
  if !ending.isEmpty && name.length != ending.length && ending.isSuffixOf name then
    name.take (name.length - ending.length)
  else name

/-- Show the last names of paths. -/
def baseNames : Tool := fun _ =>
  withTable
    { flags := "az", valued := "s", mixed := false
      long := [("multiple", 'a'), ("suffix", 's')] } 1
    fun call => do
      let several := call.has 'a' || call.has 's'
      match call.operands with
      | [] => missingOperand call "missing operand"
      | path :: others =>
        if several then
          for path in call.operands do
            print (baseName path ((call.value? 's').getD []) ++ ['\n'])
          return 0
        else match others with
          | _ :: extra :: _ =>
            complainOfWords call.name (ascii "extra operand " ++ inMarks extra)
            return 1
          | others =>
            print (baseName path (others.headD []) ++ ['\n'])
            return 0

/-- Show paths without their last names. -/
def directoryNames : Tool := fun _ =>
  withTable { flags := "z" } 1 fun call => do
    if call.operands.isEmpty then missingOperand call "missing operand"
    else
      for path in call.operands do
        let found := if trimSlashes path |>.isEmpty then (if path.isEmpty then ['.'] else ['/'])
          else directoryOf path
        print (found ++ ['\n'])
      return 0

/-- A decimal number with so many digits behind the point. -/
structure Decimal where
  units : Int
  places : Nat
  deriving Repr, DecidableEq

namespace Decimal

def read? (text : Octets) : Option Decimal :=
  let (negative, rest) : Bool × Octets := match text with
    | '-' :: rest => (true, rest)
    | '+' :: rest => (false, rest)
    | rest => (false, rest)
  let whole := rest.takeWhile Char.isDigit
  let fraction : Octets := match rest.drop whole.length with
    | '.' :: rest => rest.takeWhile Char.isDigit
    | _ => []
  let behind := match rest.drop whole.length with
    | '.' :: rest => rest.drop fraction.length
    | behind => behind
  let (exponent, behind) := Floating.exponentAt ['e', 'E'] behind
  if whole.isEmpty && fraction.isEmpty || !behind.isEmpty || 1000 < exponent.natAbs then none
  else
    let n := (Arithmetic.digits 10 (whole ++ fraction)).1
    let places : Int := fraction.length - exponent
    let n : Int := n * Floating.tens (-places).toNat
    some ⟨if negative then -n else n, places.toNat⟩

/-- Ten times itself so often. -/
def tens : Nat → Int
  | 0 => 1
  | n + 1 => 10 * tens n

/-- A number with more places. -/
def widen (places : Nat) (d : Decimal) : Int :=
  d.units * tens (places - d.places)

/-- A number with so many places as it is written. -/
def render (places : Nat) (units : Int) : Octets :=
  let digits := Text.decimal units.natAbs
  let digits := List.replicate (places + 1 - digits.length) '0' ++ digits
  let whole := digits.take (digits.length - places)
  (if units < 0 then ['-'] else []) ++ whole ++
    (if places = 0 then [] else '.' :: digits.drop whole.length)

end Decimal

/-- Numbers from one on, in steps, as long as they do not pass the last one. -/
def countUp (step last : Int) : (fuel : Nat) → Int → List Int
  | 0, _ => []
  | fuel + 1, n =>
    if (0 < step && last < n) || (step < 0 && n < last) then []
    else n :: countUp step last fuel (n + step)

def zeroFilled (width : Nat) (text : Octets) : Octets :=
  match text with
  | '-' :: rest => '-' :: List.replicate (width - text.length) '0' ++ rest
  | text => List.replicate (width - text.length) '0' ++ text

/-- What is wrong with a format for one number, if anything is. -/
def numberFormatMistake? (format : Octets) : Option String :=
  let rec directives : (fuel : Nat) → Octets → List Octets
    | 0, _ | _, [] => []
    | fuel + 1, '%' :: '%' :: rest => directives fuel rest
    | fuel + 1, '%' :: rest => rest :: directives fuel rest
    | fuel + 1, _ :: rest => directives fuel rest
  match directives (format.length + 1) format with
  | [] => some "has no % directive"
  | rest :: others =>
    let rest := rest.dropWhile fun c => "-+#0 '".toList.contains c
    let rest := rest.dropWhile Char.isDigit
    let rest := match rest with
      | '.' :: rest => rest.dropWhile Char.isDigit
      | rest => rest
    match rest, others with
    | [], _ => some "ends in %"
    | c :: _, others =>
      if !"aAeEfFgG".toList.contains c then some ("has unknown %" ++ toString c ++ " directive")
      else if others.isEmpty then none
      else some "has too many % directives"

/-- The options before numbers that take the next word as their argument. -/
def numberOptions : List Octets :=
  ["-s", "-f", "-ws", "-wf", "--separator", "--format"].map ascii

/-- Words in which numbers that start like options are none. -/
def withPlainNumbers (words : List Octets) (argument : Bool := false) : List Octets :=
  match words with
  | [] => []
  | word :: rest =>
    if argument then word :: withPlainNumbers rest
    else
      match word with
      | '-' :: c :: _ =>
        if c.isDigit || c == '.' then ['-', '-'] :: word :: rest
        else if word = ['-', '-'] then word :: rest
        else word :: withPlainNumbers rest (numberOptions.contains word)
      | _ => word :: rest

def showNumbers : Tool := fun _ name words =>
  withTable
    { flags := "w", valued := "sf", mixed := false
      long := [("equal-width", 'w'), ("separator", 's'), ("format", 'f')] } 1
    (fun call => do
      let wrong := (call.value? 'f').bind fun format =>
        (numberFormatMistake? format).map fun mistake => (format, mistake)
      if let some (format, mistake) := wrong then
        complainAs name (ascii "format " ++ inMarks format ++ ascii (" " ++ mistake))
        return 1
      let invalid := call.operands.find? fun word => (Decimal.read? word).isNone
      match call.operands, invalid with
      | [], _ => missingOperand call "missing operand"
      | _ :: _ :: _ :: extra :: _, _ =>
        complainOfWords name (ascii "extra operand " ++ inMarks extra)
        return 1
      | _, some word =>
        complainOfWords name (ascii "invalid floating point argument: " ++ inMarks word)
        return 1
      | operands, none =>
        let numbers := operands.filterMap Decimal.read?
        let one : Decimal := ⟨1, 0⟩
        let (first, step, last) := match numbers with
          | [last] => (one, one, last)
          | [first, last] => (first, one, last)
          | first :: step :: last :: _ => (first, step, last)
          | [] => (one, one, one)
        if step.units = 0 then
          complainOfWords name (ascii "invalid Zero increment value: " ++
            inMarks (operands.getD 1 []))
          return 1
        let shown := max first.places step.places
        let places := max shown last.places
        let all := countUp (step.widen places) (last.widen places) 1000000 (first.widen places)
        let texts := all.map fun n => Decimal.render shown (n / Decimal.tens (places - shown))
        let width := max (Decimal.render shown (first.widen shown)).length
          (Decimal.render shown (last.units / Decimal.tens (last.places - shown) *
            Decimal.tens (shown - last.places))).length
        let texts := if call.has 'w' then texts.map (zeroFilled width) else texts
        let texts := match call.value? 'f' with
          | some format => texts.map fun text => (formatted .tool format [text]).2.output
          | none => texts
        if !texts.isEmpty then
          print (((call.value? 's').getD ['\n']).intercalate texts ++ ['\n'])
        return 0)
    name (withPlainNumbers words)

/-- A value of an expression of words. -/
inductive ExprValue where
  | number (n : Int)
  | text (text : Octets)
  deriving Repr, DecidableEq

namespace ExprValue

def render : ExprValue → Octets
  | number n => Text.signedDecimal n
  | text t => t

def number? : ExprValue → Option Int
  | number n => some n
  | text t =>
    let digits := if t.head? = some '-' then t.drop 1 else t
    if isNumeral digits then
      let n : Int := (Arithmetic.digits 10 digits).1
      some (if t.head? = some '-' then -n else n)
    else none

/-- Whether a value counts as nothing. -/
def isNull (value : ExprValue) : Bool :=
  value.render.isEmpty || value.number? = some 0

end ExprValue

/-- What reads an expression of words. -/
abbrev ExprReading := StateT (List Octets × Octets) (Except String)

def nextExprWord : ExprReading Octets := do
  match ← get with
  | ([], last) =>
    throw ("syntax error: missing argument after '" ++ String.ofList last ++ "'")
  | (word :: words, _) =>
    set (words, word)
    return word

/-- Take the next word if it is one of some signs. -/
def acceptSign (signs : List String) : ExprReading (Option String) := do
  match (← get).1 with
  | word :: words =>
    let text := String.ofList word
    if signs.contains text then
      set (words, word)
      return some text
    return none
  | [] => return none

def needNumber (value : ExprValue) : ExprReading Int :=
  match value.number? with
  | some n => return n
  | none => throw "non-integer argument"

/-- How a pattern fits the front of a text: what its first group fits, or how much is fitted. -/
def matchFront (text pattern : Octets) : ExprReading ExprValue := do
  match Regex.read {} pattern with
  | .error message => throw message
  | .ok regex =>
    let subject : Regex.Subject := { text := text.toArray }
    let grouped := regex.hasGroup
    match regex.fitAt? subject 0 with
    | none => return if grouped then .text [] else .number 0
    | some fit =>
      if grouped then
        match fit.groups.lookup 1 with
        | some (start, stop) => return .text (subject.part start stop)
        | none => return .text []
      else return .number fit.position

/-- A single operand. `whole` reads what stands in parentheses. -/
def exprOperand (whole : ExprReading ExprValue) : (fuel : Nat) → ExprReading ExprValue
  | 0 => throw "syntax error"
  | fuel + 1 => do
    let word ← nextExprWord
    let further := exprOperand whole fuel
    match String.ofList word with
    | "(" =>
      let value ← whole
      match ← acceptSign [")"] with
      | some _ => return value
      | none =>
        match ← get with
        | ([], last) =>
          throw ("syntax error: expecting ')' after '" ++ String.ofList last ++ "'")
        | (found :: _, _) =>
          throw ("syntax error: expecting ')' instead of '" ++ String.ofList found ++ "'")
    | ")" => throw "syntax error: unexpected ')'"
    | "+" => return .text (← nextExprWord)
    | "length" => return .number (← further).render.length
    | "match" =>
      let text ← further
      matchFront text.render (← further).render
    | "index" =>
      let text := (← further).render
      let set := (← further).render
      return .number (match text.findIdx? set.contains with
        | some i => i + 1
        | none => 0)
    | "substr" =>
      let text := (← further).render
      let start := (← further).number?.getD 0
      let length := (← further).number?.getD 0
      return .text (if start ≤ 0 || length ≤ 0 then []
        else (text.drop (start.toNat - 1)).take length.toNat)
    | _ => return .text word

/-- Operands with signs of one level between them. -/
def exprLevel (signs : List String) (single : ExprReading ExprValue)
    (combine : String → ExprValue → ExprValue → ExprReading ExprValue) :
    (fuel : Nat) → (left : ExprValue) → ExprReading ExprValue
  | 0, left => return left
  | fuel + 1, left => do
    match ← acceptSign signs with
    | none => return left
    | some sign =>
      let right ← single
      exprLevel signs single combine fuel (← combine sign left right)

/-- The result of an operation on numbers. -/
def exprArithmetic (sign : String) (a b : ExprValue) : ExprReading ExprValue := do
  let m ← needNumber a
  let n ← needNumber b
  match sign with
  | "+" => return .number (m + n)
  | "-" => return .number (m - n)
  | "*" => return .number (m * n)
  | _ =>
    if n = 0 then throw "division by zero"
    return .number (if sign = "/" then m.tdiv n else m.tmod n)

def exprCompare (sign : String) (a b : ExprValue) : ExprReading ExprValue := do
  let order : Ordering := match a.number?, b.number? with
    | some m, some n => if m < n then .lt else if m = n then .eq else .gt
    | _, _ =>
      if Condition.before a.render b.render then .lt
      else if a.render == b.render then .eq else .gt
  let result : Bool := match sign with
    | "<" => order == .lt
    | "<=" => order != .gt
    | "=" | "==" => order == .eq
    | "!=" => order != .eq
    | ">=" => order != .lt
    | _ => order == .gt
  return .number (if result then 1 else 0)

def exprWhole : (fuel : Nat) → ExprReading ExprValue
  | 0 => throw "syntax error"
  | fuel + 1 => do
    let bound := (← get).1.length + 1
    let single := exprOperand (exprWhole fuel) bound
    let levelOf (signs : List String) (inner : ExprReading ExprValue)
        (combine : String → ExprValue → ExprValue → ExprReading ExprValue) :
        ExprReading ExprValue := do
      exprLevel signs inner combine bound (← inner)
    let fitted := levelOf [":"] single fun _ a b => matchFront a.render b.render
    let products := levelOf ["*", "/", "%"] fitted exprArithmetic
    let sums := levelOf ["+", "-"] products exprArithmetic
    let comparisons := levelOf ["<", "<=", "=", "==", "!=", ">=", ">"] sums exprCompare
    let both := levelOf ["&"] comparisons fun _ a b =>
      return if a.isNull || b.isNull then .number 0 else a
    levelOf ["|"] both fun _ a b =>
      return if !a.isNull then a else if b.isNull then .number 0 else b

def workOut : Tool := fun _ name words => do
  let words := if words.head? = some ['-', '-'] then words.drop 1 else words
  if words.isEmpty then
    complainOfWords name (ascii "missing operand")
    return .exited 2
  let reading : ExprReading ExprValue := do
    let value ← exprWhole (words.length + 1)
    match (← get).1 with
    | [] => return value
    | word :: _ =>
      throw (if word == [')'] then "syntax error: unexpected ')'"
        else "syntax error: unexpected argument " ++ String.ofList (inMarks word))
  match reading.run (words, []) with
  | .error message =>
    complainAs name (ascii message)
    return .exited 2
  | .ok (value, _) =>
    print (value.render ++ ['\n'])
    return .exited (if value.isNull then 1 else 0)

def sleep : Tool := fun _ =>
  withTable {} 1 fun call => do
    let isInterval (word : Octets) : Bool :=
      let digits := match word.getLast? with
        | some c => if "smhd".toList.contains c then word.dropLast else word
        | none => word
      match Decimal.read? digits with
      | some d => 0 ≤ d.units
      | none => digits == ascii "inf" || digits == ascii "infinity"
    if call.operands.isEmpty then missingOperand call "missing operand"
    else
      let wrong := call.operands.filter fun word => !isInterval word
      for word in wrong do
        complainAs call.name (ascii "invalid time interval " ++ inMarks word)
      if wrong.isEmpty then return 0
      complain (ascii "Try '" ++ call.name ++ ascii " --help' for more information.")
      return 1

/-- Print words without end, as far as anyone reads. -/
def repeatWords : Tool := fun _ _ words => do
  let line := (if words.isEmpty then ['y'] else Text.joinWith ' ' words) ++ ['\n']
  print (List.replicate (endlessChunk / line.length + 1) line).flatten
  return .killed 13

/-- Show the directory where paths start. -/
def showWorking : Tool := fun _ _ words => do
  let kept ← environment? "PWD"
  let path ← physicalPath
  let logical : Bool := words.getLast? == some ['-', 'L']
  let shown := match kept with
    | some kept => if logical then kept else path
    | none => path
  print (shown ++ ['\n'])
  return .exited 0

end AsmLayout.Host
