import AsmLayout.Host.Shell.Expansion

/-! # Redirections

The targets of all redirections of a command are expanded before the first file is opened. What the open
files led to before can be put back.
-/

namespace AsmLayout.Host

open Text (Octets)

/-- A redirection with a known target. -/
inductive Direction where
  | file (descriptor : Nat) (access : Access) (path : Octets)
  | copy (descriptor source : Nat)
  | closed (descriptor : Nat)
  /-- A text to read. -/
  | text (descriptor : Nat) (text : Octets)
  deriving Repr, DecidableEq

/-- The open file that a redirection changes. -/
def Direction.descriptor : Direction → Nat
  | file n _ _ | copy n _ | closed n | text n _ => n

/-- Expand the target of a redirection. -/
def directionOf (e : Evaluator) : Redirection → Shell Direction
  | .file n access target => return .file n access (← textOfWord e target)
  | .duplicate n target => do
    match ← textOfWord e target with
    | ['-'] => return .closed n
    | [c] =>
      match digit? c with
      | some source => return .copy n source
      | none => giveUp (ascii "Syntax error: Bad fd number")
    | _ => giveUp (ascii "Syntax error: Bad fd number")
  | .here n document => do
    let pieces := ((← get).documents.lookup document).getD []
    return .text n (glyphText (← glyphsOf e false pieces))

/-- Why a file cannot be opened. -/
def openingText (creating : Bool) (cause : IoError) : Octets :=
  match cause with
  | .notFound | .notADirectory => ascii (if creating then "Directory nonexistent" else "No such file")
  | cause => ascii cause.wording

/-- How a file is opened for a redirection. -/
def Access.opening : Access → Opening
  | read => .reading
  | write | clobber => .writing
  | append => .appending
  | readWrite => .both

/-- Whether a path leads to a file with contents of its own. -/
def isPlainFile (path : Octets) : Act Bool := do
  match ← nodeAt path with
  | .error _ => return false
  | .ok id =>
    match (← files).node id with
    | .file _ _ | .program _ _ => return true
    | _ => return false

/-- Let an open file lead where it shall. -/
def direct : Direction → Shell Unit
  | .file n access path => do
    let creating := access != .read
    let mistake (cause : IoError) : Shell Unit :=
      giveUp (ascii (if creating then "cannot create " else "cannot open ") ++ path ++ ascii ": " ++
        openingText creating cause)
    if access = .write && (← hasSetting 'C') && (← onProcess (isPlainFile path)) then
      mistake .alreadyExists
    match ← onProcess (openPath path access.opening) with
    | .ok stream => onProcess (connect n stream)
    | .error cause => mistake cause
  | .copy n source => do
    match ← onProcess (streamOf? source) with
    | some stream => onProcess (connect n stream)
    | none => giveUp (Text.decimal source ++ ascii ": Bad file descriptor")
  | .closed n => onProcess (close n)
  | .text n text => do
    let stream ← onProcess (addStream (.pipe (Text.arrayOf text) 0))
    onProcess (connect n stream)

/-- What open files lead to. -/
def streamsOf (descriptors : List Nat) : Shell (List (Nat × Option Nat)) :=
  onProcess (descriptors.mapM fun n => return (n, ← streamOf? n))

/-- Let open files lead where they led before. -/
def putBack (old : List (Nat × Option Nat)) : Shell Unit :=
  onProcess do
    for (n, stream) in old do
      match stream with
      | some stream => connect n stream
      | none => close n

/-- Act with redirections. When one of them fails, `otherwise` is done instead. -/
def withDirections (directions : List Direction) (otherwise act : Shell Unit) : Shell Unit := do
  let old ← streamsOf (directions.map (·.descriptor))
  withFinish (putBack old) do
    match ← attempt (directions.forM direct) with
    | .ok () => act
    | .error .failed => otherwise
    | .error jump => throw jump

end AsmLayout.Host
