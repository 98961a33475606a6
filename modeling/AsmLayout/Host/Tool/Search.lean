import AsmLayout.Host.Regex.Reader
import AsmLayout.Host.Tool

/-! # The tool that shows the lines that patterns fit -/

namespace AsmLayout.Host

open Text (Octets)

inductive Wanted where
  | regex (regex : Regex)
  | text (text : Octets)

structure SearchRule where
  wanted : List Wanted
  folded : Bool
  /-- A fit has to be whole words. -/
  words : Bool
  /-- A fit has to be the whole line. -/
  whole : Bool

/-- The positions up to which something fits from a position on, the furthest first. -/
def Wanted.ends (wanted : Wanted) (subject : Regex.Subject) (position : Nat) : List Nat :=
  match wanted with
  | .regex pattern =>
    (Regex.furthestFirst (Regex.fits subject pattern { position })).map (·.position)
  | .text part =>
    let here := subject.part position (position + part.length)
    let same := if subject.folded then here.map Char.toLower == part.map Char.toLower
      else here == part
    if same then [position + part.length] else []

/-- The furthest position up to which a line fits from a position on. -/
def SearchRule.endFrom? (rule : SearchRule) (subject : Regex.Subject) (position : Nat) : Option Nat :=
  let all := rule.wanted.flatMap fun wanted => wanted.ends subject position
  let good := all.filter fun stop =>
    (!rule.whole || (position == 0 && stop == subject.text.size)) &&
    (!rule.words || (!subject.wordBefore position && !subject.hasWord stop))
  if good.isEmpty then none else some (good.foldl max 0)

/-- The first fit from a position on. -/
def SearchRule.findFrom (rule : SearchRule) (subject : Regex.Subject) :
    (left : Nat) → (position : Nat) → Option (Nat × Nat)
  | 0, _ => none
  | left + 1, position =>
    match rule.endFrom? subject position with
    | some stop => some (position, stop)
    | none => rule.findFrom subject left (position + 1)

def SearchRule.subject (rule : SearchRule) (line : Octets) : Regex.Subject :=
  { text := line.toArray, folded := rule.folded }

def SearchRule.fits (rule : SearchRule) (line : Octets) : Bool :=
  let subject := rule.subject line
  (rule.findFrom subject (subject.text.size + 1) 0).isSome

/-- The parts of a line that fit, in order. -/
def SearchRule.partsFrom (rule : SearchRule) (subject : Regex.Subject) :
    (fuel : Nat) → (position : Nat) → List Octets
  | 0, _ => []
  | fuel + 1, position =>
    match rule.findFrom subject (subject.text.size + 1 - position) position with
    | none => []
    | some (start, stop) =>
      if stop = start then rule.partsFrom subject fuel (start + 1)
      else subject.part start stop :: rule.partsFrom subject fuel stop

/-- The parts of a line that fit, in order. -/
def SearchRule.parts (rule : SearchRule) (line : Octets) : List Octets :=
  rule.partsFrom (rule.subject line) (line.length + 1) 0

/-- The numbers of the lines that are shown around chosen ones. -/
def withContext (before behind total : Nat) (chosen : List Nat) : List Nat :=
  (List.range total).filter fun n =>
    chosen.any fun c => c ≤ n + before && n ≤ c + behind

/-- Show the lines of a text that fit; gives how many there are. -/
def searchText (call : Call) (rule : SearchRule) (named : Bool) (label : Octets) (text : Octets) :
    Act Nat := do
  let lines := Text.lineList text
  let all := (lines.zipIdx.filter fun (line, _) => rule.fits line != call.has 'v').map (·.2)
  let chosen := match (call.value? 'm').bind sizeOf? with
    | some n => all.take n
    | none => all
  let count := chosen.length
  let number (letter : Char) : Nat :=
    (((call.value? letter).orElse fun _ => call.value? 'C').bind sizeOf?).getD 0
  if call.has 'q' then return count
  if call.has 'l' || call.has 'L' then
    if (count != 0) == call.has 'l' then print (label ++ ['\n'])
    return count
  if call.has 'c' then
    print ((if named then label ++ [':'] else []) ++ Text.decimal count ++ ['\n'])
    return count
  if text.contains '\x00' && !call.has 'a' then
    if count != 0 then complainAs call.name (label ++ ascii ": binary file matches")
    return count
  let front (n : Nat) (mark : Char) : Octets :=
    (if named then label ++ [mark] else []) ++
      (if call.has 'n' then Text.decimal (n + 1) ++ [mark] else [])
  if call.has 'o' then
    for n in chosen do
      if !call.has 'v' then
        for part in rule.parts (lines.getD n []) do print (front n ':' ++ part ++ ['\n'])
    return count
  let context := number 'A' + number 'B' != 0
  let shown := if context then withContext (number 'B') (number 'A') lines.length chosen else chosen
  let mut last : Option Nat := none
  for n in shown do
    match last with
    | some m => if context && m + 1 != n then print (ascii "--\n")
    | none => pure ()
    print (front n (if chosen.contains n then ':' else '-') ++ lines.getD n [] ++ ['\n'])
    last := some n
  return count

def filesBelow (found : FileSystem) : (fuel : Nat) → (path : Octets) → (id : Nat) → List Octets
  | 0, _, _ => []
  | fuel + 1, path, id =>
    if found.isDirectory id then
      (found.entries id).flatMap fun (name, inner) =>
        filesBelow found fuel (path ++ '/' :: Text.octets name) inner
    else [path]

/-- The patterns that a call names, with the operands that are left. -/
def searchPatterns (call : Call) : Act (Except (Octets × IoError) (List Octets × List Octets)) := do
  let mut found : List Octets := []
  let mut given := false
  for (letter, argument) in call.options do
    if letter = 'e' then
      found := found ++ Text.splitAtChar '\n' argument
      given := true
    if letter = 'f' then
      match ← readOperand argument with
      | .ok bytes => found := found ++ Text.lineList bytes
      | .error cause => return .error (argument, cause)
      given := true
  if given then return .ok (found, call.operands)
  match call.operands with
  | [] => return .ok ([], [])
  | pattern :: others => return .ok (Text.splitAtChar '\n' pattern, others)

/-- Show the lines that patterns fit; `usual` is how patterns are written if no option says so. -/
def searchLines (usual : Char) : Tool := fun _ =>
  withTable
    { flags := "EFGivwxclLqsnHhorRayb\x01", valued := "efmABC", optional := "\x01"
      long := [("extended-regexp", 'E'), ("fixed-strings", 'F'), ("basic-regexp", 'G'),
        ("ignore-case", 'i'), ("invert-match", 'v'), ("word-regexp", 'w'), ("line-regexp", 'x'),
        ("count", 'c'), ("files-with-matches", 'l'), ("files-without-match", 'L'), ("quiet", 'q'),
        ("silent", 'q'), ("no-messages", 's'), ("line-number", 'n'), ("with-filename", 'H'),
        ("no-filename", 'h'), ("only-matching", 'o'), ("recursive", 'r'), ("text", 'a'),
        ("regexp", 'e'), ("file", 'f'), ("max-count", 'm'), ("after-context", 'A'),
        ("before-context", 'B'), ("context", 'C'), ("color", '\x01')] } 2
    fun call => do
      let explained := call.options.any fun option => option.1 = 'e' || option.1 = 'f'
      if call.operands.isEmpty && !explained then
        complain (ascii "Usage: " ++ call.name ++ ascii " [OPTION]... PATTERNS [FILE]...")
        complain (ascii "Try '" ++ call.name ++ ascii " --help' for more information.")
        return 2
      match ← searchPatterns call with
      | .error (path, cause) =>
        complainOfFile call.name path cause
        return 2
      | .ok (patterns, paths) =>
        let kind := (call.last? ['E', 'F', 'G']).getD usual
        let style : Regex.Style := { extended := kind = 'E', lenient := true }
        let wanted := patterns.mapM fun pattern =>
          if kind = 'F' then .ok (Wanted.text pattern)
          else (Regex.read style pattern).map Wanted.regex
        match wanted with
        | .error message =>
          complainAs call.name (ascii message)
          return 2
        | .ok wanted =>
          let rule : SearchRule :=
            { wanted, folded := call.has 'i' || call.has 'y', words := call.has 'w'
              whole := call.has 'x' }
          let deep := call.has 'r' || call.has 'R'
          let found ← files
          let expanded ← paths.mapM fun path => do
            match ← nodeAt path with
            | .ok id => return if deep then filesBelow found found.nodes.size path id else [path]
            | .error _ => return [path]
          let inputs := if paths.isEmpty then [['-']] else expanded.flatten
          let named := (call.has 'H' || deep || 1 < paths.length) && !call.has 'h'
          let mut selected := false
          let mut failed := false
          for path in inputs do
            match ← readOperand path with
            | .ok bytes =>
              let label := if path == ['-'] then ascii "(standard input)" else path
              let count ← searchText call rule named label bytes
              if count != 0 then selected := true
            | .error cause =>
              if !call.has 's' then complainAs call.name (path ++ ascii (": " ++ cause.wording))
              failed := true
          let good := if call.has 'L' then !selected else selected
          if failed && !(call.has 'q' && selected) then return 2
          return if good then 0 else 1

end AsmLayout.Host
