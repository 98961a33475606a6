import AsmLayout.Host.Shell.Session

/-! # Looking for programs

A program that is called by a name without a slash is looked for in the directories that a variable lists.
-/

namespace AsmLayout.Host

open Text (Octets)

/-- Whether what stands at a path can be run, or why not. -/
def checkProgram (path : Octets) : Act (Except IoError Unit) := do
  match ← nodeAt path with
  | .error cause => return .error cause
  | .ok id =>
    match (← files).node id with
    | .file _ mode | .program _ mode =>
      return if mode.canRun then .ok () else .error .permissionDenied
    | _ => return .error .permissionDenied

/-- The path of a file in a directory. -/
def inDirectory (directory name : Octets) : Octets :=
  if directory.isEmpty then name else directory ++ '/' :: name

/-- Look for a program in some directories. -/
def lookIn (name : Octets) : List Octets → (cause : IoError) → Act (Except IoError Octets)
  | [], cause => return .error cause
  | directory :: others, cause => do
    let path := inDirectory directory name
    match ← checkProgram path with
    | .ok () => return .ok path
    | .error .notFound | .error .notADirectory => lookIn name others cause
    | .error cause => lookIn name others cause

/-- The path of a program that is called by a name. What has a slash in it is a path. -/
def locate (searched : Octets) (name : Octets) : Act (Except IoError Octets) :=
  if name.contains '/' then return .ok name
  else lookIn name (Text.splitAtChar ':' searched) .notFound

/-- Look for a program in some directories. One that cannot be run is passed over, but it is the cause that
    is told if no other is found. -/
def findIn (name : Octets) : List Octets → (cause : IoError) → Act (Except IoError Octets)
  | [], cause => return .error cause
  | directory :: others, cause => do
    let path := inDirectory directory name
    match ← checkProgram path with
    | .ok () => return .ok path
    | .error .notFound | .error .notADirectory => findIn name others cause
    | .error .permissionDenied => findIn name others .permissionDenied
    | .error other => return .error other

/-- The longest name that is looked for, in bytes. -/
def longestCommand : Nat := 255

/-- The path of a program that one program calls by a name. What has a slash in it is a path. -/
def findProgram (searched : Octets) (name : Octets) : Act (Except IoError Octets) :=
  if name.isEmpty then return .error .notFound
  else if name.contains '/' then return .ok name
  else if longestCommand < name.length then return .error .nameTooLong
  else findIn name (Text.splitAtChar ':' searched) .notFound

/-- The directories where programs are looked for in any case. -/
def usualPath : Octets :=
  ascii "/usr/local/sbin:/usr/local/bin:/usr/sbin:/usr/bin:/sbin:/bin"

/-- The path of a program that a script calls by a name. It is looked for once. -/
def locateProgram (name : Octets) : Shell (Except IoError Octets) := do
  if name.contains '/' then return .ok name
  match (← get).remembered.lookup name, ← value? "PATH" with
  | some path, _ => return .ok path
  | none, some searched =>
    match ← onProcess (locate searched name) with
    | .ok path =>
      modify fun s => { s with remembered := s.remembered ++ [(name, path)] }
      return .ok path
    | .error cause => return .error cause
  | none, none => return .error .notFound

/-- Why a program cannot be run. -/
def runningText (cause : IoError) : Octets :=
  match cause with
  | .notFound | .notADirectory => ascii "not found"
  | cause => ascii cause.wording

/-- The status of a program that cannot be run. -/
def failedStatus (cause : IoError) : Nat :=
  match cause with
  | .notFound | .notADirectory | .nameTooLong | .tooManyLinks => 127
  | _ => 126

end AsmLayout.Host
