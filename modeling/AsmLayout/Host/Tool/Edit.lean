import AsmLayout.Host.Editor.Reader
import AsmLayout.Host.Editor.Run
import AsmLayout.Host.Tool.Files

/-! # The stream editor -/

namespace AsmLayout.Host

open Text (Octets)

def inputLines (ending : Char) (file bytes : Octets) : List Editor.InputLine :=
  let pieces := Text.splitAtChar ending bytes
  let lines := pieces.dropLast.map fun text => (⟨text, true, file, false⟩ : Editor.InputLine)
  match pieces.getLast? with
  | none | some [] => lines
  | some text => lines ++ [⟨text, false, file, false⟩]

def withLast (lines : List Editor.InputLine) : List Editor.InputLine :=
  lines.modify (lines.length - 1) fun line => { line with last := true }

/-- Words in which the ending for copies is an option of its own. -/
def withCopyEnding (words : List Octets) : List Octets :=
  words.flatMap fun word =>
    match word with
    | '-' :: 'i' :: c :: rest => [['-', 'i'], '-' :: 'S' :: c :: rest]
    | '-' :: '-' :: 'i' :: 'n' :: '-' :: 'p' :: 'l' :: 'a' :: 'c' :: 'e' :: '=' :: rest =>
      [['-', 'i'], '-' :: 'S' :: rest]
    | word => [word]

/-- The text of the instructions that a call names, with the operands that are left, or why there is none. -/
def editorText (call : Call) : Act (Except (Octets × IoError) (Option (Octets × List Octets))) := do
  let mut given : List Octets := []
  for (letter, argument) in call.options do
    if letter = 'e' then given := given ++ [argument]
    if letter = 'f' then
      match ← readOperand argument with
      | .ok bytes => given := given ++ [if bytes.getLast? = some '\n' then bytes.dropLast else bytes]
      | .error cause => return .error (argument, cause)
  match given, call.operands with
  | [], [] => return .ok none
  | [], text :: operands => return .ok (some (text, operands))
  | parts, operands => return .ok (some (Text.joinWith '\n' parts, operands))

/-- In which of the parts of a text a position lies, and where in it. -/
def locateIn : (number : Nat) → List Octets → (position : Nat) → Nat × Nat
  | number, part :: next :: parts, position =>
    if position ≤ part.length then (number, position)
    else locateIn (number + 1) (next :: parts) (position - part.length - 1)
  | number, _, position => (number, position)

/-- Tell why instructions make no sense; gives the status. -/
def complainOfScript (call : Call) (text : Octets) (mistake : Editor.Mistake) : Act Nat := do
  let expressions := (call.options.filter fun option => option.1 = 'e').map (·.2)
  let file := (call.options.reverse.find? fun option => option.1 = 'f').map (·.2)
  let tell (position : Nat) (message : String) : Act Nat := do
    match file, expressions with
    | some path, [] =>
      let line := (text.take position).count '\n' + 1
      complainAs call.name (ascii "file " ++ path ++ ascii (s!" line {line}: " ++ message))
    | _, expressions =>
      let (number, character) := locateIn 1 (if expressions.isEmpty then [text] else expressions)
        position
      complainAs call.name (ascii (s!"-e expression #{number}, char {character}: " ++ message))
    return 1
  match mistake with
  | .after position message => tell position message
  | .unmatchedBrace => tell 0 "unmatched `\x7b'"
  | .noPreviousRegex => tell 0 "no previous regular expression"
  | .missingLabel label =>
    complainAs call.name (ascii "can't find label for jump to `" ++ label ++ ['\''])
    return 4

/-- Open the files that are written to, up to the first one that cannot be opened. The standard error is
    not opened once more. -/
def openTargets : List Octets → Act (Except (Octets × IoError) (List (Octets × Nat)))
  | [] => return .ok []
  | path :: paths => do
    let opened : Except IoError Nat ←
      if path == ascii "/dev/stderr" then pure ((← streamOf? 2).elim (.error .badDescriptor) .ok)
      else if path == ascii "/dev/stdout" then pure ((← streamOf? 1).elim (.error .badDescriptor) .ok)
      else openPath path .writing
    match opened with
    | .error cause => return .error (path, cause)
    | .ok stream => return (← openTargets paths).map ((path, stream) :: ·)

def writeFiles (targets : List (Octets × Nat)) (written : List (Octets × Octets)) : Act Unit := do
  for (path, bytes) in written.reverse do
    match targets.lookup path with
    | some stream => discard (writeStream stream (Text.arrayOf bytes))
    | none => pure ()

/-- Edit what is read, or files in their places. -/
def editStream : Tool := fun _ name words =>
  withTable
    { flags := "nErsziu", valued := "eflS"
      long := [("quiet", 'n'), ("silent", 'n'), ("regexp-extended", 'E'), ("separate", 's'),
        ("null-data", 'z'), ("in-place", 'i'), ("unbuffered", 'u'), ("expression", 'e'),
        ("file", 'f'), ("line-length", 'l')] } 1
    (fun call => do
      match ← editorText call with
      | .error (path, cause) =>
        complainAs name (ascii "couldn't open file " ++ path ++ ascii (": " ++ cause.wording))
        return 4
      | .ok none =>
        complain (ascii "Usage: " ++ name ++
          ascii " [OPTION]... \x7bscript-only-if-no-other-script\x7d [input-file]...")
        return 1
      | .ok (some (text, operands)) =>
        match Editor.Script.read (call.has 'E' || call.has 'r') text with
        | .error mistake => complainOfScript call text mistake
        | .ok script =>
          let targets ← match ← openTargets script.targets with
            | .ok targets => pure targets
            | .error (path, cause) =>
              complainAs name (ascii "couldn't open file " ++ path ++ ascii (": " ++ cause.wording))
              return 4
          let found ← files
          let working := (← get).working
          let read (path : Octets) : Octets :=
            match found.resolveAt working (Text.textOf path) true with
            | .node id =>
              match found.contentOf id with
              | .file bytes | .guarded bytes true _ => Text.octetsOfArray bytes
              | _ => []
            | _ => []
          let manner : Editor.Manner :=
            { silent := call.has 'n' || script.silent
              ending := if call.has 'z' then '\x00' else '\n'
              read }
          let inPlace := call.has 'i'
          let mut status := 0
          let mut inputs : List (Octets × List Editor.InputLine) := []
          for path in if operands.isEmpty then [['-']] else operands do
            match ← readOperand path with
            | .ok bytes => inputs := inputs ++ [(path, inputLines manner.ending path bytes)]
            | .error .isADirectory =>
              complainAs name (if inPlace
                then ascii "couldn't edit " ++ path ++ ascii ": not a regular file"
                else ascii "couldn't read " ++ path ++ ascii ": Is a directory")
              status := if inPlace then 4 else 2
            | .error cause =>
              complainAs name (ascii "can't read " ++ path ++ ascii (": " ++ cause.wording))
              status := 2
          let finish (result : Nat × Editor.State) : Act Nat := do
            writeFiles targets result.2.written
            if result.2.lost then complainOfScript call text .noPreviousRegex
            else return result.1
          if inPlace then
            for (path, lines) in inputs do
              let result := Editor.edit script manner (withLast lines)
              match call.value? 'S' with
              | some ending =>
                match ← openPath (path ++ ending) .writing with
                | .ok stream => discard (writeStream stream (Text.arrayOf (read path)))
                | .error _ => pure ()
              | none => pure ()
              match ← replaceAt path result.2.output with
              | .ok () => pure ()
              | .error cause =>
                complainAs name (ascii "couldn't open temporary file " ++
                  below (directoryOf path) (ascii ("sedAAAAAA: " ++ cause.wording)))
                return 4
              let code ← finish result
              if code != 0 then status := code
            return status
          else
            let lines := if call.has 's' then inputs.flatMap fun input => withLast input.2
              else withLast (inputs.flatMap (·.2))
            let result := Editor.edit script manner lines
            print result.2.output
            let code ← finish result
            return if code = 0 then status else code)
    name (withCopyEnding words)

end AsmLayout.Host
