import AsmLayout.Host.Tool

/-! # Tools that put lines in order and compare neighbours -/

namespace AsmLayout.Host

open Text (Octets)

structure SortRule where
  numeric : Bool := false
  reversed : Bool := false
  /-- Small letters count as capital ones. -/
  folded : Bool := false
  /-- Blanks in front do not count. -/
  skipsBlanks : Bool := false
  /-- Only letters, digits and blanks count. -/
  dictionary : Bool := false
  deriving Repr, DecidableEq

/-- The part of a line that is compared: from a character of a field on, up to one of another field or its
    end. Fields and characters are counted from zero. -/
structure SortKey where
  field : Nat
  character : Nat
  lastField : Option Nat
  /-- How many characters of the last field belong to the key, all of them if there are none. -/
  lastCharacter : Nat
  rule : SortRule
  /-- Whether it has a rule of its own. -/
  own : Bool
  deriving Repr, DecidableEq

def isLineBlank (c : Char) : Bool :=
  c == ' ' || c == '\t'

/-- What follows so many fields. Without a separator a field starts with its blanks. -/
def skipFields (separator : Option Char) : (n : Nat) → Octets → Octets
  | 0, line => line
  | n + 1, line =>
    match separator with
    | some c => skipFields separator n ((line.dropWhile (· != c)).drop 1)
    | none =>
      skipFields separator n ((line.dropWhile isLineBlank).dropWhile fun c => !isLineBlank c)

def keyEnd (separator : Option Char) (key : SortKey) (line : Octets) : Nat :=
  match key.lastField with
  | none => line.length
  | some last =>
    let front := skipFields separator last line
    let rest :=
      if key.lastCharacter = 0 then
        match separator with
        | some c => front.dropWhile (· != c)
        | none => skipFields none 1 front
      else
        let front := if key.rule.skipsBlanks then front.dropWhile isLineBlank else front
        front.drop key.lastCharacter
    line.length - rest.length

def keyText (separator : Option Char) (key : SortKey) (line : Octets) : Octets :=
  let front := skipFields separator key.field line
  let front := if key.rule.skipsBlanks then front.dropWhile isLineBlank else front
  let front := front.drop key.character
  let start := line.length - front.length
  front.take (keyEnd separator key line - start)

def compareBytes : Octets → Octets → Ordering
  | [], [] => .eq
  | [], _ => .lt
  | _, [] => .gt
  | a :: as, b :: bs => if a = b then compareBytes as bs else if a < b then .lt else .gt

/-- A number in a text, as its sign, the digits in front of the point and those behind it. -/
def numberAt (text : Octets) : Bool × Octets × Octets :=
  let text := text.dropWhile isLineBlank
  let (negative, text) : Bool × Octets := match text with
    | '-' :: rest => (true, rest)
    | text => (false, text)
  let whole := text.takeWhile Char.isDigit
  let fraction := match text.drop whole.length with
    | '.' :: rest => rest.takeWhile Char.isDigit
    | _ => []
  (negative, whole.dropWhile (· == '0'), (fraction.reverse.dropWhile (· == '0')).reverse)

/-- Compare texts by the numbers in front of them. -/
def compareValues (a b : Octets) : Ordering :=
  let (aNegative, aWhole, aFraction) := numberAt a
  let (bNegative, bWhole, bFraction) := numberAt b
  let isZero (whole fraction : Octets) := whole.isEmpty && fraction.isEmpty
  let aNegative := aNegative && !isZero aWhole aFraction
  let bNegative := bNegative && !isZero bWhole bFraction
  let size := ((Ord.compare aWhole.length bWhole.length).then (compareBytes aWhole bWhole)).then
    (compareBytes aFraction bFraction)
  match aNegative, bNegative with
  | true, false => .lt
  | false, true => .gt
  | true, true => size.swap
  | false, false => size

def SortRule.view (rule : SortRule) (text : Octets) : Octets :=
  let text := if rule.skipsBlanks then text.dropWhile isLineBlank else text
  let text := if rule.dictionary then text.filter fun c => c.isAlphanum || isLineBlank c else text
  if rule.folded then text.map Char.toUpper else text

def SortRule.compare (rule : SortRule) (a b : Octets) : Ordering :=
  let result := if rule.numeric then compareValues a b
    else compareBytes (rule.view a) (rule.view b)
  if rule.reversed then result.swap else result

/-- How lines are put in order. -/
structure Sorting where
  keys : List SortKey
  separator : Option Char
  rule : SortRule
  /-- Lines with equal keys stay as they are. -/
  stable : Bool
  /-- Of lines with equal keys only one stays. -/
  unique : Bool

def Sorting.compareKeys (sorting : Sorting) (a b : Octets) : Ordering :=
  if sorting.keys.isEmpty then sorting.rule.compare a b
  else sorting.keys.foldl (fun result key =>
    let rule := if key.own then key.rule else sorting.rule
    result.then (rule.compare (keyText sorting.separator { key with rule } a)
      (keyText sorting.separator { key with rule } b))) .eq

def Sorting.compare (sorting : Sorting) (a b : Octets) : Ordering :=
  let result := sorting.compareKeys a b
  if sorting.stable || sorting.unique then result
  else
    let whole := compareBytes a b
    result.then (if sorting.rule.reversed then whole.swap else whole)

/-- The first of neighbours that are alike. -/
def firstsOf (alike : Octets → Octets → Bool) : List Octets → List Octets
  | [] => []
  | [line] => [line]
  | a :: b :: lines =>
    if alike a b then firstsOf alike (a :: lines) else a :: firstsOf alike (b :: lines)
termination_by lines => lines.length

def Sorting.sort (sorting : Sorting) (lines : List Octets) : List Octets :=
  let sorted := lines.mergeSort fun a b => sorting.compare a b != .gt
  if sorting.unique then firstsOf (fun a b => sorting.compareKeys a b == .eq) sorted else sorted

/-- A rule with what a letter says. -/
def SortRule.with (rule : SortRule) (letter : Char) : SortRule :=
  match letter with
  | 'n' | 'g' | 'h' => { rule with numeric := true }
  | 'r' => { rule with reversed := true }
  | 'f' => { rule with folded := true }
  | 'b' => { rule with skipsBlanks := true }
  | 'd' => { rule with dictionary := true }
  | _ => rule

/-- A position in a line: a field, a character in it, and the letters behind. -/
def keyPosition (text : Octets) : Option (Nat × Nat × Octets × Octets) := do
  let field := text.takeWhile Char.isDigit
  let n ← (String.ofList field).toNat?
  let rest := text.drop field.length
  let (character, rest) ← match rest with
    | '.' :: rest => do
      let digits := rest.takeWhile Char.isDigit
      pure (← (String.ofList digits).toNat?, rest.drop digits.length)
    | rest => pure (0, rest)
  let letters := rest.takeWhile fun c => "bdfghinrMRV".toList.contains c
  return (n, character, letters, rest.drop letters.length)

def SortKey.read? (text : Octets) : Option SortKey := do
  let (field, character, letters, rest) ← keyPosition text
  guard (0 < field)
  match rest with
  | [] =>
    return { field := field - 1, character := character - 1, lastField := none, lastCharacter := 0
             rule := letters.foldl SortRule.with {}, own := !letters.isEmpty }
  | ',' :: rest =>
    let (last, lastCharacter, others, rest) ← keyPosition rest
    guard (0 < last && rest.isEmpty)
    let letters := letters ++ others
    return { field := field - 1, character := character - 1, lastField := some (last - 1)
             lastCharacter, rule := letters.foldl SortRule.with {}, own := !letters.isEmpty }
  | _ => none

/-- The first line that is out of order, with its number. -/
def Sorting.disorder? (sorting : Sorting) : (n : Nat) → List Octets → Option (Nat × Octets)
  | n, a :: b :: lines =>
    let order := sorting.compare a b
    if order == .gt || (sorting.unique && order == .eq) then some (n + 1, b)
    else sorting.disorder? (n + 1) (b :: lines)
  | _, _ => none
termination_by _ lines => lines.length

/-- Put lines in order, or look whether they are. -/
def sortLines : Tool := fun _ =>
  withTable
    { flags := "bdfghinrMRVsuczmC", valued := "kotTS"
      long := [("reverse", 'r'), ("numeric-sort", 'n'), ("unique", 'u'), ("key", 'k'),
        ("field-separator", 't'), ("output", 'o'), ("ignore-case", 'f'), ("stable", 's'),
        ("check", 'c'), ("ignore-leading-blanks", 'b')] } 2
    fun call => do
      let fields := (call.options.filter fun option => option.1 = 'k').map (·.2)
      match fields.find? fun field => (SortKey.read? field).isNone with
      | some field =>
        complainAs call.name (ascii "invalid number at field start: invalid count at start of " ++
          inMarks field)
        return 2
      | none =>
        let sorting : Sorting :=
          { keys := fields.filterMap SortKey.read?
            separator := (call.value? 't').bind List.head?
            rule := (call.options.map (·.1)).foldl SortRule.with {}
            stable := call.has 's', unique := call.has 'u' }
        let mut found : List Octets := []
        for path in call.inputs do
          match ← readOperand path with
          | .ok bytes => found := found ++ [bytes]
          | .error cause =>
            let what := if cause = .isADirectory then ascii "read failed: " else ascii "cannot read: "
            complainAs call.name (what ++ fileName path ++ ascii (": " ++ cause.wording))
            return 2
        let lines := found.flatMap Text.lineList
        if call.has 'c' || call.has 'C' then
          match sorting.disorder? 1 lines with
          | none => return 0
          | some (n, line) =>
            if call.has 'c' then
              complainAs call.name ((call.inputs.headD []) ++ ':' :: Text.decimal n ++
                ascii ": disorder: " ++ line)
            return 1
        let output := ((sorting.sort lines).map (· ++ ['\n'])).flatten
        match call.value? 'o' with
        | none =>
          print output
          return 0
        | some path =>
          match ← openPath path .writing with
          | .ok stream =>
            discard (writeStream stream (Text.arrayOf output))
            return 0
          | .error cause =>
            complainAs call.name (ascii "open failed: " ++ fileName path ++
              ascii (": " ++ cause.wording))
            return 2

/-- Neighbours that are alike, each with how many there are. -/
def groupLines (alike : Octets → Octets → Bool) : List Octets → List (Nat × Octets)
  | [] => []
  | line :: lines =>
    match groupLines alike lines with
    | (n, other) :: groups =>
      if alike line other then (n + 1, line) :: groups else (1, line) :: (n, other) :: groups
    | [] => [(1, line)]

/-- Show one of neighbours that are alike. -/
def uniqueLines : Tool := fun _ =>
  withTable
    { flags := "cdui", valued := "fsw"
      long := [("count", 'c'), ("repeated", 'd'), ("unique", 'u'), ("ignore-case", 'i'),
        ("skip-fields", 'f'), ("skip-chars", 's'), ("check-chars", 'w')] } 1
    fun call => do
      match call.operands with
      | _ :: _ :: extra :: _ =>
        complainOfWords call.name (ascii "extra operand " ++ inMarks extra)
        return 1
      | operands =>
        let count (letter : Char) : Nat := ((call.value? letter).bind sizeOf?).getD 0
        let view (line : Octets) : Octets :=
          let line := skipFields none (count 'f') line
          let line := line.drop (count 's')
          let line := match call.value? 'w' with
            | some _ => line.take (count 'w')
            | none => line
          if call.has 'i' then line.map Char.toLower else line
        match ← readOperand (operands.headD ['-']) with
        | .error cause =>
          complainOfFile call.name (operands.headD []) cause
          return 1
        | .ok bytes =>
          let groups := groupLines (fun a b => view a == view b) (Text.lineList bytes)
          let chosen := groups.filter fun (n, _) =>
            (!call.has 'd' || 1 < n) && (!call.has 'u' || n == 1)
          let output := (chosen.map fun (n, line) =>
            (if call.has 'c' then alignRight 7 (Text.decimal n) ++ [' '] else []) ++ line ++
              ['\n']).flatten
          match operands[1]? with
          | none => print output
          | some path =>
            match ← openPath path .writing with
            | .ok stream => discard (writeStream stream (Text.arrayOf output))
            | .error cause =>
              complainOfFile call.name path cause
              return 1
          return 0

end AsmLayout.Host
