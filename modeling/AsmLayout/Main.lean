import AsmLayout.Command.Run

/-! # The program

It reads the files that its arguments name, does what it is asked to do, and writes back the files that
have changed.
-/

namespace AsmLayout

def loadContent (path : String) : IO Content := do
  try
    return .file (← IO.FS.readBinFile path)
  catch error =>
    match error with
    | .noFileOrDirectory .. => return .absent
    | _ => return .directory

/-- A file system with the files that some arguments name. -/
def loadFiles (arguments : List String) : IO FileSystem := do
  let names := (arguments.filter fun argument => !argument.contains '/').eraseDups
  let contents ← names.mapM fun name => return (name, ← loadContent name)
  return (FileSystem.bare Host.programNames).withContents contents

/-- Write the files that have changed. -/
def storeFiles (before after : FileSystem) : IO Unit := do
  for (name, content) in after.contents do
    if before.lookup name ≠ content then
      match content with
      | .file bytes | .guarded bytes _ _ => IO.FS.writeBinFile name bytes
      | .directory => IO.FS.createDirAll name
      | .absent | .unreachable _ => pure ()
  for (name, _) in before.contents do
    if after.lookup name = .absent then IO.FS.removeFile name

/-- The level that a variable asks for, warnings without one. -/
def levelOfVariable : Option String → Option Journal.Level
  | none => some .warn
  | some "debug" => some .debug
  | some "info" => some .info
  | some "warn" => some .warn
  | some "error" => some .error
  | some _ => none

def freshSeed : IO Seed := do
  let bytes := (← IO.getRandomBytes 32).data.toList
  if h : bytes.length = 32 then return ⟨bytes, h⟩ else return Seed.zero

end AsmLayout

open AsmLayout in
/-- Run the program. -/
def main (arguments : List String) : IO UInt32 := do
  match Command.readRequest arguments with
  | .error cause =>
    IO.eprintln "usage: assemble | randomize | sections"
    return cause.exitCode.toUInt32
  | .ok request =>
    let files ← loadFiles arguments
    let outcome := Command.run request (← IO.getEnv Command.settingsVariable) (← freshSeed) files
    storeFiles files outcome.files
    IO.print outcome.stdout
    IO.eprint (outcome.stderr (levelOfVariable (← IO.getEnv "ASMRAND_LOG")))
    return outcome.exitCode.toUInt32
