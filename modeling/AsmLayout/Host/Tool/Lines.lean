import AsmLayout.Host.Shell.Formatting
import AsmLayout.Host.Tool

/-! # Tools that pass lines on -/

namespace AsmLayout.Host

open Text (Octets)

def numbered (n : Nat) (line : Octets) : Octets :=
  alignRight 6 (Text.decimal n) ++ '\t' :: line

/-- Number lines, all or those that are not blank. -/
def numberLines (blanks : Bool) : (n : Nat) → List Octets → List Octets
  | _, [] => []
  | n, line :: lines =>
    if !blanks && line == ['\n'] then line :: numberLines blanks n lines
    else numbered n line :: numberLines blanks (n + 1) lines

/-- Lines with one blank line in the place of several. -/
def squeezeLines : (afterBlank : Bool) → List Octets → List Octets
  | _, [] => []
  | afterBlank, line :: lines =>
    let blank := line == ['\n']
    if blank && afterBlank then squeezeLines true lines
    else line :: squeezeLines blank lines

def visible (c : Char) : Octets :=
  let plain (n : Nat) : Octets :=
    if n < 32 then ['^', Char.ofNat (n + 64)]
    else if n = 127 then ['^', '?'] else [Char.ofNat n]
  if c = '\n' || c = '\t' then [c]
  else if c.toNat < 128 then plain c.toNat
  else ['M', '-'] ++ plain (c.toNat - 128)

/-- Whether the standard output goes to a file that is not empty and stands at a path. -/
def readsItsOutput (path : Octets) : Act Bool := do
  let p ← get
  let node? (stream : Option Nat) : Option (Nat × Nat) := match stream.bind (p.world.streams[·]?) with
    | some (.file node offset _) => some (node, offset)
    | _ => none
  let output := node? (← streamOf? 1)
  let input ← if path == ['-'] then pure (node? (← streamOf? 0))
    else match ← nodeAt path with
      | .ok node => pure (some (node, 0))
      | .error _ => pure none
  match output, input with
  | some (written, _), some (read, offset) =>
    match p.world.files.node read with
    | .file bytes _ => return written = read && offset < bytes.size
    | _ => return false
  | _, _ => return false

def concatenate : Tool := fun _ =>
  withTable
    { flags := "AbeEnstTuv"
      long := [("number", 'n'), ("number-nonblank", 'b'), ("squeeze-blank", 's'),
        ("show-ends", 'E'), ("show-tabs", 'T'), ("show-all", 'A'), ("show-nonprinting", 'v')] } 1
    fun call => do
      let showing := call.has 'v' || call.has 'A' || call.has 'e' || call.has 't'
      let ends := call.has 'E' || call.has 'A' || call.has 'e'
      let tabs := call.has 'T' || call.has 'A' || call.has 't'
      let change (lines : List Octets) : Octets :=
        let lines := if call.has 's' then squeezeLines false lines else lines
        let lines := lines.map fun line =>
          let line := if showing then line.flatMap visible else line
          let line := if tabs then line.flatMap fun c => if c = '\t' then ['^', 'I'] else [c]
            else line
          if ends && line.getLast? = some '\n' then line.dropLast ++ ['$', '\n'] else line
        let lines := if call.has 'b' then numberLines false 1 lines
          else if call.has 'n' then numberLines true 1 lines else lines
        lines.flatten
      if call.options.all fun option => option.1 = 'u' then
        let mut status := 0
        for path in call.inputs do
          if ← readsItsOutput path then
            complainAs call.name (fileName path ++ ascii ": input file is output file")
            status := 1
          else match ← readOperand path with
          | .ok bytes => print bytes
          | .error cause =>
            complainOfFile call.name path cause
            status := 1
        if call.inputs.contains ['-'] && (← streamOf? 0).isNone then
          complainAs call.name
            (ascii ("closing standard input: " ++ IoError.badDescriptor.wording))
        return status
      else
        let (found, good) ← readAllOperands call.name call.inputs
        print (change (cutLines found.flatten))
        return if good then 0 else 1

/-- Lines in the opposite order. -/
def reverseLines : Tool := fun _ =>
  withTable {} 1 fun call => do
    let mut status := 0
    for path in call.inputs do
      match ← readOperand path with
      | .ok bytes => print (cutLines bytes).reverse.flatten
      | .error cause =>
        complainAs call.name (ascii "failed to open " ++ inQuotes path ++
          ascii (" for reading: " ++ cause.wording))
        status := 1
    return status

def reverseCharacters : Tool := fun _ =>
  withTable {} 1 fun call => do
    let mut status := 0
    for path in call.inputs do
      match ← readOperand path with
      | .ok bytes =>
        for line in cutLines bytes do
          let text := line.filter (· != '\n')
          print (text.reverse ++ line.drop text.length)
      | .error cause =>
        complainAs call.name (ascii "cannot open " ++ path ++ ascii (": " ++ cause.wording))
        status := 1
    return status

def numberedLines : Tool := fun _ =>
  withTable { flags := "p", valued := "bnswv" } 1 fun call => do
    let (found, good) ← readAllOperands call.name call.inputs
    let all := call.value? 'b' = some ['a']
    let width := ((call.value? 'w').bind sizeOf?).getD 6
    let between := (call.value? 's').getD ['\t']
    let start := ((call.value? 'v').bind sizeOf?).getD 1
    let mut n := start
    for line in cutLines found.flatten do
      if !all && line == ['\n'] then
        print (List.replicate (width + between.length) ' ' ++ line)
      else
        print (alignRight width (Text.decimal n) ++ between ++ line)
        n := n + 1
    return if good then 0 else 1

/-- How much is taken from one end of a text. -/
structure Portion where
  count : Nat
  /-- The count is of bytes, not of lines. -/
  inBytes : Bool
  /-- All but the count, counted from the other end. -/
  opposite : Bool
  deriving Repr, DecidableEq

def Portion.units (portion : Portion) (text : Octets) : List Octets :=
  if portion.inBytes then text.map fun c => [c] else cutLines text

def Portion.front (portion : Portion) (text : Octets) : Octets :=
  let units := portion.units text
  (units.take (if portion.opposite then units.length - portion.count else portion.count)).flatten

/-- What a portion takes from the end. -/
def Portion.back (portion : Portion) (text : Octets) : Octets :=
  let units := portion.units text
  (units.drop (if portion.opposite then portion.count - 1 else units.length - portion.count)).flatten

/-- Words in which a lone number stands for an option. -/
def withNumberOption : List Octets → List Octets
  | ('-' :: c :: digits) :: words =>
    if (c :: digits).all Char.isDigit then ['-', 'n'] :: (c :: digits) :: words
    else ('-' :: c :: digits) :: words
  | words => words

/-- The portion that a call asks for, or the argument that is none. The sign says that all but the count
    is meant. -/
def Call.portion (call : Call) (sign : Char) : Except (Char × Octets) Portion :=
  match call.last? ['n', 'c'] with
  | none => .ok ⟨10, false, false⟩
  | some letter =>
    let argument := (call.value? letter).getD []
    let (opposite, digits) : Bool × Octets := match argument with
      | c :: rest => if c = sign then (true, rest) else if c = '-' || c = '+' then (false, rest)
        else (false, argument)
      | [] => (false, [])
    match sizeOf? digits with
    | some n => .ok ⟨n, letter = 'c', opposite⟩
    | none => .error (letter, argument)

/-- Show a portion of each file, with headings if there are several files. -/
def showPortions (sign : Char) (take : Portion → Octets → Octets) : Tool := fun _ name words =>
  withTable
    { flags := "qvfF", valued := "nc"
      long := [("lines", 'n'), ("bytes", 'c'), ("quiet", 'q'), ("silent", 'q'), ("verbose", 'v')] } 1
    (fun call => do
      match call.portion sign with
      | .error (letter, argument) =>
        complainAs name (ascii ("invalid number of " ++ (if letter = 'c' then "bytes" else "lines") ++
          ": ") ++ inMarks argument)
        return 1
      | .ok portion =>
        let headings := call.has 'v' || (1 < call.operands.length && !call.has 'q')
        let mut status := 0
        let mut first := true
        for path in call.inputs do
          let shown := if path == ['-'] then ascii "standard input" else path
          let heading : Octets := if headings then
              (if first then [] else ['\n']) ++ ascii "==> " ++ shown ++ ascii " <==\n"
            else []
          match ← readOperand path with
          | .ok bytes =>
            print (heading ++ take portion bytes)
            first := false
          | .error .isADirectory =>
            print heading
            first := false
            complainAs name (ascii "error reading " ++ inQuotes path ++ ascii ": Is a directory")
            status := 1
          | .error cause =>
            complainAs name (ascii "cannot open " ++ inQuotes path ++
              ascii (" for reading: " ++ cause.wording))
            status := 1
        return status)
    name (withNumberOption words)

/-- How many words a text has. -/
def countWords (text : Octets) : Nat :=
  let isSpace (c : Char) : Bool := c == ' ' || ('\t' ≤ c && c ≤ '\r')
  let rec go : (inWord : Bool) → Octets → Nat
    | _, [] => 0
    | inWord, c :: rest =>
      if isSpace c then go false rest
      else (if inWord then 0 else 1) + go true rest
  go false text

def longestLineOf (text : Octets) : Nat :=
  ((Text.lineList text).map List.length).foldl max 0

/-- What is counted in a text, in order. -/
def countsOf (letters : List Char) (text : Octets) : List Nat :=
  let count (letter : Char) : Nat := match letter with
    | 'l' => text.count '\n'
    | 'w' => countWords text
    | 'L' => longestLineOf text
    | _ => text.length
  ['l', 'w', 'm', 'c', 'L'].filter letters.contains |>.map count

/-- How wide counts are shown. What is no plain file can have any size. -/
def countWidth (single : Bool) (paths : List Octets) : Act Nat := do
  if single then return 1
  let mut total := 0
  let mut least := 1
  for path in paths do
    if path == ['-'] then
      match ← streamOf? 0 with
      | none => pure ()
      | some index =>
        match (← get).world.streams[index]? with
        | some (.file node _ _) =>
          match (← files).contentOf node with
          | .file bytes | .guarded bytes _ _ => total := total + bytes.size
          | _ => least := 7
        | _ => least := 7
    else
      match ← nodeAt path with
      | .error _ => pure ()
      | .ok id =>
        match (← files).node id with
        | .file bytes _ => total := total + bytes.size
        | _ => least := 7
  return max least (toString total).length

/-- Count lines, words and bytes. -/
def countFiles : Tool := fun _ =>
  withTable
    { flags := "lwcmL"
      long := [("lines", 'l'), ("words", 'w'), ("bytes", 'c'), ("chars", 'm'),
        ("max-line-length", 'L')] } 1
    fun call => do
      let letters := if call.options.isEmpty then ['l', 'w', 'c'] else call.options.map (·.1)
      let columns := ['l', 'w', 'm', 'c', 'L'].filter letters.contains
      let width ← countWidth (call.inputs.length == 1 && columns.length == 1) call.inputs
      let tell (counts : List Nat) (name : Octets) : Act Unit :=
        print (Text.joinWith ' ' (counts.map fun n => alignRight width (Text.decimal n)) ++
          (if name.isEmpty then [] else ' ' :: name) ++ ['\n'])
      let mut status := 0
      let mut totals := columns.map fun _ => 0
      for path in call.inputs do
        let shown := if call.operands.isEmpty then [] else path
        match ← readOperand path with
        | .ok bytes =>
          let counts := countsOf columns bytes
          totals := (totals.zip (counts.zip columns)).map fun (total, n, letter) =>
            if letter = 'L' then max total n else total + n
          tell counts shown
        | .error cause =>
          complainOfFile call.name path cause
          if cause = .isADirectory then tell (columns.map fun _ => 0) shown
          status := 1
      if 1 < call.operands.length then tell totals (ascii "total")
      return status

/-- Pass on what is read, and write it to files as well. -/
def duplicate : Tool := fun _ =>
  withTable { flags := "ai", long := [("append", 'a')] } 1 fun call => do
    let bytes := (← readAll 0).toOption.getD []
    let mut status := 0
    let mut streams : List Nat := []
    for path in call.operands do
      match ← openPath path (if call.has 'a' then .appending else .writing) with
      | .ok stream => streams := streams ++ [stream]
      | .error cause =>
        complainOfFile call.name path cause
        status := 1
    print bytes
    for stream in streams do discard (writeStream stream (Text.arrayOf bytes))
    return status

/-- The lines of files side by side, or all lines of a file in one. -/
def pasteLines : Tool := fun _ =>
  withTable { flags := "s", valued := "d" } 1 fun call => do
    let marks := (unescaped ((call.value? 'd').getD ['\t'])).1
    let (found, good) ← readAllOperands call.name call.inputs
    let join (cells : List Octets) : Octets :=
      let n := cells.length
      (cells.zipIdx.flatMap fun (cell, i) =>
        if i + 1 = n then cell else cell ++ (marks[i % max marks.length 1]?).toList) ++ ['\n']
    let tables := found.map Text.lineList
    if call.has 's' then for lines in tables do print (join lines)
    else
      let height := (tables.map List.length).foldl max 0
      for i in List.range height do
        print (join (tables.map fun lines => lines.getD i []))
    return if good then 0 else 1

end AsmLayout.Host
