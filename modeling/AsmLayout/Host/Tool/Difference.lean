import AsmLayout.Host.Difference.Layout
import AsmLayout.Host.Tool.Listing

/-! # The tool that shows in which lines files differ -/

namespace AsmLayout.Host

open Difference (Shape Sides Change changes textsOf)
open Text (Octets)

/-- How two files are compared. -/
structure Inspection where
  call : Call
  shape : Shape
  /-- The words of the call, up to the files. -/
  words : List Octets

namespace Inspection

def isBlank (c : Char) : Bool :=
  c = ' ' || ('\t' ≤ c && c ≤ '\r')

/-- A line with one blank for each run of blanks, and none at its end. -/
def withSingleBlanks : Octets → Octets
  | [] => []
  | [c] => if isBlank c then [] else [c]
  | c :: next :: line =>
    let rest := withSingleBlanks (next :: line)
    if !isBlank c then c :: rest
    else if isBlank next || rest.isEmpty then rest else ' ' :: rest

def keyOf (inspection : Inspection) (line : Octets) : Octets :=
  let line := if inspection.call.has 'i' then line.map Char.toLower else line
  if inspection.call.has 'w' then line.filter (!isBlank ·)
  else if inspection.call.has 'b' then withSingleBlanks line
  else if inspection.call.has 'Z' then (line.reverse.dropWhile isBlank).reverse
  else line

/-- Whether only some of a file is compared. -/
def overlooks (inspection : Inspection) : Bool :=
  ['i', 'w', 'b', 'Z', 'B'].any inspection.call.has

/-- Whether a change is more than lines without anything. -/
def matters (inspection : Inspection) (sides : Sides) (change : Change) : Bool :=
  let isEmpty (line : Octets) : Bool :=
    let blanks := ['w', 'b', 'Z'].any inspection.call.has
    line = ['\n'] || blanks && line.all isBlank
  !inspection.call.has 'B' ||
    !((sides.xs.extract change.xStart (change.xStart + change.xCount)).all isEmpty &&
      (sides.ys.extract change.yStart (change.yStart + change.yCount)).all isEmpty)

/-- What a text starts with before its changes. -/
def heading (inspection : Inspection) (first second : Octets) : Octets :=
  let labels := (inspection.call.options.filter fun option => option.1 = 'L').map (·.2)
  let line (mark : String) (label? : Option Octets) (path time : Octets) : Octets :=
    ascii mark ++ label?.getD (path ++ '\t' :: time) ++ ['\n']
  let exact := ascii "1970-01-01 00:00:00.000000000 +0000"
  let plain := ascii "Thu Jan  1 00:00:00 1970"
  match inspection.shape with
  | .merged _ => line "--- " labels[0]? first exact ++ line "+++ " labels[1]? second exact
  | .facing _ => line "*** " labels[0]? first plain ++ line "--- " labels[1]? second plain
  | _ => []

/-- A file to be compared: its path, and its node unless nothing is there. -/
structure Named where
  path : Octets
  id? : Option Nat
  deriving Repr, DecidableEq

/-- Compare texts. Gives the status. -/
def compareTexts (inspection : Inspection) (deep : Bool) (first second : Octets) (one two : Octets) :
    Act Nat := do
  let call := inspection.call
  let both := first ++ ascii " and " ++ second
  let isBinary (text : Octets) : Bool := (text.take 4096).contains '\x00'
  if !call.has 'a' && (isBinary one || isBinary two) then
    if one = two then return 0
    print ((if call.has 'q' then ascii "Files " else ascii "Binary files ") ++ both ++
      ascii " differ\n")
    return 1
  let complete (text : Octets) : Octets :=
    if inspection.shape = .commands && !text.isEmpty && text.getLast? != some '\n' then text ++ ['\n']
    else text
  let sides : Sides := ⟨(cutLines (complete one)).toArray, (cutLines (complete two)).toArray⟩
  let changes :=
    if one = two then []
    else if call.has 'q' && !inspection.overlooks then [⟨0, 1, 0, 1⟩]
    else changes inspection.keyOf inspection.shape.around (call.has 'd') sides.xs.toList sides.ys.toList
  let matters := inspection.matters sides
  let mut status := if changes.any matters then 1 else 0
  if call.has 'q' then
    if status = 1 then print (ascii "Files " ++ both ++ ascii " differ\n")
  else if status = 1 then
    if deep then
      let shown (word : Octets) : Octets := if needsQuotes word then inQuotes word else word
      print ([' '].intercalate ((call.name :: inspection.words ++ [first, second]).map shown) ++ ['\n'])
    print (inspection.heading first second)
    print (textsOf inspection.shape matters sides changes).flatten
  if inspection.shape = .commands && !call.has 'q' then
    for (path, text) in [(first, one), (second, two)] do
      if !text.isEmpty && text.getLast? != some '\n' then
        complainAs call.name (path ++ ascii ": No newline at end of file\n")
        status := 2
  return status

/-- Compare two files, of which one may be missing. Gives the status. -/
def compare (inspection : Inspection) : (fuel : Nat) → (deep : Bool) → (first second : Named) → Act Nat
  | 0, _, _, _ => return 0
  | fuel + 1, deep, first, second => do
    let call := inspection.call
    let found ← files
    let isDirectory (file : Named) : Bool := file.id?.any found.isDirectory
    let both := first.path ++ ascii " and " ++ second.path
    if first.id?.isSome && first.id? = second.id? then
      if call.has 's' && !isDirectory first then print (ascii "Files " ++ both ++ ascii " are identical\n")
      return 0
    else if isDirectory first || isDirectory second then
      if (isDirectory first || first.id?.isNone) && (isDirectory second || second.id?.isNone) then
        if deep && !call.has 'r' then
          print (ascii "Common subdirectories: " ++ both ++ ['\n'])
          return 0
        let namesIn (file : Named) : List (String × Nat) := (file.id?.map found.entries).getD []
        for file in [first, second] do
          if file.id?.any fun id => !(found.mode id).canRead then
            complainAs call.name (file.path ++ ascii ": Permission denied")
            return 2
        let names := ((namesIn first ++ namesIn second).map fun entry => Text.octets entry.1).mergeSort
          (fun a b => !decide (b < a)) |>.eraseDups
        let mut status := 0
        for name in names do
          let child (file : Named) : Named :=
            ⟨below file.path name, ((namesIn file).lookup (Text.textOf name)).bind fun id =>
              match found.node id, found.resolveAt (file.id?.getD 0) (Text.textOf name) true with
              | .link _, .node inner => some inner
              | _, _ => some id⟩
          let alone? : Option Octets :=
            if call.has 'N' then none
            else if (child first).id?.isNone then some second.path
            else if (child second).id?.isNone then some first.path
            else none
          match alone? with
          | some path =>
            print (ascii "Only in " ++ path ++ ascii ": " ++ name ++ ['\n'])
            status := max status 1
          | none =>
            let result ← compare inspection fuel true (child first) (child second)
            status := max status result
        return status
      else
        match first.id?, second.id? with
        | some a, some b =>
          print (ascii "File " ++ first.path ++ ascii " is a " ++ kindName found a ++
            ascii " while file " ++ second.path ++ ascii " is a " ++ kindName found b ++ ['\n'])
        | _, _ => pure ()
        return 1
    else
      let contentOf (file : Named) : Act (Except IoError Octets) :=
        if file.id?.isNone then return .ok [] else readOperand file.path
      match ← contentOf first, ← contentOf second with
      | .ok one, .ok two =>
        let status ← compareTexts inspection deep first.path second.path one two
        if status = 0 && call.has 's' then print (ascii "Files " ++ both ++ ascii " are identical\n")
        return status
      | one, two =>
        for (file, text) in [(first, one), (second, two)] do
          if let .error cause := text then
            complainAs call.name (file.path ++ ascii (": " ++ cause.wording))
        return 2

/-- Compare the two files of a call. Gives the status. -/
def compareOperands (inspection : Inspection) (first second : Octets) : Act Nat := do
  let call := inspection.call
  if first = ['-'] && second = ['-'] then return 0
  let found ← files
  let find (path : Octets) : Act (Except IoError Nat) :=
    if path = ['-'] then return .error .notFound else nodeAt path
  let one ← find first
  let two ← find second
  let mut good := true
  for (path, node, other) in [(first, one, two), (second, two, one)] do
    if let .error cause := node then
      let overlooked := call.has 'N' && cause = .notFound && other.toOption.isSome
      if path != ['-'] && !overlooked then
        complainAs call.name (path ++ ascii (": " ++ cause.wording))
        good := false
  if !good then return 2
  let isDirectory (node : Except IoError Nat) : Bool := node.toOption.any found.isDirectory
  if (first = ['-'] && isDirectory two) || (second = ['-'] && isDirectory one) then
    complainAs call.name (ascii "cannot compare '-' to a directory")
    return 2
  let insideOf (path other : Octets) (node otherNode : Except IoError Nat) :
      Act (Except Octets Named) := do
    if isDirectory node && otherNode.toOption.isSome && !isDirectory otherNode then
      let inner := below path (lastName other)
      match ← nodeAt inner with
      | .ok id => return .ok ⟨inner, some id⟩
      | .error cause =>
        if call.has 'N' && cause = .notFound then return .ok ⟨inner, none⟩
        else return .error (inner ++ ascii (": " ++ cause.wording))
    else return .ok ⟨path, node.toOption⟩
  match ← insideOf first second one two, ← insideOf second first two one with
  | .error message, _ | _, .error message =>
    complainAs call.name message
    return 2
  | .ok a, .ok b =>
    if first = ['-'] || second = ['-'] then
      let text (path : Octets) (file : Named) : Act (Except IoError Octets) :=
        if path = ['-'] then readAll 0 else readOperand file.path
      match ← text first a, ← text second b with
      | .ok one, .ok two =>
        let status ← compareTexts inspection false a.path b.path one two
        if status = 0 && call.has 's' then
          print (ascii "Files " ++ a.path ++ ascii " and " ++ b.path ++ ascii " are identical\n")
        return status
      | .error cause, _ =>
        complainAs call.name (a.path ++ ascii (": " ++ cause.wording))
        return 2
      | _, .error cause =>
        complainAs call.name (b.path ++ ascii (": " ++ cause.wording))
        return 2
    else inspection.compare (found.nodes.size + 1) false a b

end Inspection

/-- The shape that a call asks for, or the text that is no number of lines. -/
def shapeOf (call : Call) : Except Octets (Option Shape) :=
  let lines (text : Octets) : Except Octets Nat :=
    if text.isEmpty then .ok 3
    else match (String.ofList text).toNat? with
      | some n => if text.all Char.isDigit then .ok n else .error text
      | none => .error text
  let rec go : List (Char × Octets) → Option Shape → Except Octets (Option Shape)
    | [], shape? => .ok (some (shape?.getD .plain))
    | (letter, value) :: options, shape? => do
      let new? : Option Shape ← match letter with
        | 'u' | 'U' => do
          let around ← lines value
          pure (some (Shape.merged (match shape? with
            | some (.merged n) => if letter = 'u' then max n around else max n around
            | _ => around)))
        | 'c' | 'C' => do
          let around ← lines value
          pure (some (Shape.facing (match shape? with
            | some (.facing n) => max n around
            | _ => around)))
        | 'e' => pure (some .commands)
        | 'n' => pure (some .counted)
        | '\x01' => pure (some .plain)
        | _ => pure none
      match shape?, new? with
      | _, none => go options shape?
      | none, some _ => go options new?
      | some (.merged _), some (.merged _) | some (.facing _), some (.facing _) => go options new?
      | some old, some new => if old = new then go options new? else return none
  go call.options none

/-- The words of a call without its operands, which are mostly the last ones. -/
def wordsBefore (words operands : List Octets) : List Octets :=
  (operands.reverse.foldl (fun words operand => words.erase operand) words.reverse).reverse

/-- Show in which lines files differ. -/
def showDifferences : Tool := fun _ name words =>
  withTable
    { flags := "qsrNiwbBZadcuen\x01\x00", valued := "UCL", optional := "cu\x00"
      long := [("brief", 'q'), ("report-identical-files", 's'), ("recursive", 'r'), ("new-file", 'N'),
        ("ignore-case", 'i'), ("ignore-all-space", 'w'), ("ignore-space-change", 'b'),
        ("ignore-blank-lines", 'B'), ("ignore-trailing-space", 'Z'), ("text", 'a'), ("unified", 'u'),
        ("context", 'c'), ("label", 'L'), ("ed", 'e'), ("rcs", 'n'), ("normal", '\x01'),
        ("minimal", 'd'), ("color", '\x00')]
      signed := true } 2
    (fun call => do
      let refuse (message : Octets) : Act Nat := do
        complainOfWords call.name message true
        return 2
      match shapeOf call with
      | .error text => refuse (ascii "invalid context length '" ++ text ++ ['\''])
      | .ok none => refuse (ascii "conflicting output style options")
      | .ok (some shape) =>
        match call.operands with
        | [first, second] =>
          let inspection := { call, shape, words := wordsBefore words call.operands : Inspection }
          inspection.compareOperands first second
        | _ :: _ :: extra :: _ => refuse (ascii "extra operand " ++ inMarks extra)
        | _ => refuse (ascii "missing operand after " ++ inMarks (words.getLastD call.name))) name words

end AsmLayout.Host
