import AsmLayout.Host.Shell.Expansion
import AsmLayout.Host.Tool

/-! # Tools that make, move and remove files -/

namespace AsmLayout.Host

open Text (Octets)

/-- A path without slashes at its end. -/
def trimSlashes (path : Octets) : Octets :=
  (path.reverse.dropWhile (· == '/')).reverse

def lastName (path : Octets) : Octets :=
  ((trimSlashes path).reverse.takeWhile (· != '/')).reverse

/-- The path of the directory in which the last name of a path stands. -/
def directoryOf (path : Octets) : Octets :=
  let front := (trimSlashes path).reverse.drop (lastName path).length |>.reverse
  if front.isEmpty then ['.'] else if trimSlashes front |>.isEmpty then ['/'] else trimSlashes front

/-- The directory and the name that a path ends with. -/
def spotOf (path : Octets) : Act (Except IoError (Nat × String)) := do
  if path.isEmpty then return .error .notFound
  match ← nodeAt (directoryOf path) with
  | .error cause => return .error cause
  | .ok id =>
    let found ← files
    if !found.isDirectory id then return .error .notADirectory
    else if !(found.mode id).canRun then return .error .permissionDenied
    else return .ok (id, Text.textOf (lastName path))

/-- The directory and the name that a path ends with, if the name can be given to something else. -/
def changeableSpotOf (path : Octets) : Act (Except IoError (Nat × String)) := do
  match ← spotOf path with
  | .error cause => return .error cause
  | .ok (directory, name) =>
    if (← files).canChange directory then return .ok (directory, name)
    else return .error .permissionDenied

/-- Put a new file with the permissions of the old one in the place of what stands at a path. -/
def replaceAt (path bytes : Octets) : Act (Except IoError Unit) := do
  match ← changeableSpotOf path, ← nodeAt path with
  | .error cause, _ | _, .error cause => return .error cause
  | .ok (directory, name), .ok old =>
    let found ← files
    let (new, found) := found.create directory name (Text.arrayOf bytes)
    setFiles (found.setMode new (found.mode old))
    return .ok ()

def changeFiles (change : FileSystem → FileSystem) : Act Unit := do
  setFiles (change (← files))

def leadsToDirectory (path : Octets) : Act Bool := do
  match ← nodeAt path with
  | .ok id => return (← files).isDirectory id
  | .error _ => return false

/-- A path below a directory. -/
def below (directory name : Octets) : Octets :=
  if directory.getLast? = some '/' then directory ++ name else directory ++ '/' :: name

/-- Do something with each operand; gives one if it fails with any of them. -/
def forOperands (operands : List Octets) (act : Octets → Act Bool) : Act Nat := do
  let mut status := 0
  for operand in operands do
    if !(← act operand) then status := 1
  return status

def missingOperand (call : Call) (what : String) : Act Nat := do
  complainOfWords call.name (ascii what)
  return 1

/-- Tell why something cannot be done with a path. -/
def refuseFile (call : Call) (what : String) (path : Octets) (cause : String) : Act Bool := do
  complainAs call.name (ascii (what ++ " ") ++ inQuotes path ++
    (if cause.isEmpty then [] else ascii (": " ++ cause)))
  return false

/-- Remove a name from a directory, with all that lies below it; gives whether all is gone. -/
def removeTree (call : Call) :
    (fuel : Nat) → (path : Octets) → (directory : Nat) → (name : String) → (id : Nat) → Act Bool
  | 0, _, _, _, _ => return false
  | fuel + 1, path, directory, name, id => do
    let found ← files
    let entries := found.entries id
    let refuse (cause : IoError) : Act Bool := refuseFile call "cannot remove" path cause.wording
    if !entries.isEmpty && !(found.mode id).canRead then return ← refuse .permissionDenied
    let mut empty := true
    for (inner, child) in entries do
      if !(found.mode id).canRun then
        return ← refuseFile call "cannot remove" (below path (Text.octets inner)) "Permission denied"
      let gone ← removeTree call fuel (below path (Text.octets inner)) id inner child
      empty := empty && gone
    if !empty then return false
    if !(← files).canChange directory then return ← refuse .permissionDenied
    changeFiles (·.remove directory name)
    if call.has 'v' then
      print (ascii (if found.isDirectory id then "removed directory " else "removed ") ++
        inQuotes path ++ ['\n'])
    return true

def removePath (call : Call) (path : Octets) : Act Bool := do
  let deep := call.has 'r' || call.has 'R'
  let refuse (cause : IoError) : Act Bool :=
    if call.has 'f' && (cause = .notFound || cause = .notADirectory) then return true
    else refuseFile call "cannot remove" path cause.wording
  match ← nodeAt path false with
  | .error cause => refuse cause
  | .ok id =>
    let found ← files
    let name := lastName path
    if found.isDirectory id then
      if deep && (name == ['.'] || name == ['.', '.']) then
        complainAs call.name (ascii "refusing to remove '.' or '..' directory: skipping " ++
          inQuotes path)
        return false
      if !deep && !call.has 'd' then return ← refuse .isADirectory
      if !deep && !(found.entries id).isEmpty then return ← refuse .notEmpty
    match ← spotOf path with
    | .error cause => refuse cause
    | .ok (directory, name) => removeTree call found.nodes.size path directory name id

def removeFiles : Tool := fun _ =>
  withTable
    { flags := "rRfdviI"
      long := [("recursive", 'r'), ("force", 'f'), ("dir", 'd'), ("verbose", 'v')] } 1
    fun call => do
      if call.operands.isEmpty then
        if call.has 'f' then return 0 else missingOperand call "missing operand"
      else forOperands call.operands (removePath call)

def makeDirectoryAt (path : Octets) (mode? : Option Mode := none) : Act (Except IoError Unit) := do
  match ← resolve (trimSlashes path) false with
  | .node _ => return .error .alreadyExists
  | .unreachable cause => return .error cause
  | .vacant directory name =>
    if !(← files).canChange directory then return .error .permissionDenied
    let mask := (← get).mask
    changeFiles fun found =>
      (found.makeDirectory directory name (mode?.getD (Mode.masked ⟨0o777⟩ mask))).2
    return .ok ()

/-- The paths that lead to a path, the shortest first. -/
def leadingPaths (path : Octets) : List Octets :=
  let names := Text.splitAtChar '/' (trimSlashes path)
  (List.range names.length).map fun n => Text.joinWith '/' (names.take (n + 1))

def makeDirectoryOf (call : Call) (mode? : Option Mode) (path : Octets) : Act Bool := do
  let refuse (path : Octets) (cause : IoError) : Act Bool := do
    complainAs call.name (ascii "cannot create directory " ++ inMarks path ++
      ascii (": " ++ cause.wording))
    return false
  let tell (path : Octets) : Act Unit :=
    if call.has 'v' then
      print (call.name ++ ascii ": created directory " ++ inQuotes path ++ ['\n'])
    else return ()
  if call.has 'p' then
    let leading := leadingPaths path
    for (step, n) in leading.zipIdx do
      if !step.isEmpty && !(← leadsToDirectory step) then
        match ← makeDirectoryAt step (if n + 1 = leading.length then mode? else none) with
        | .ok () => tell step
        | .error .alreadyExists =>
          return ← refuse step (if n + 1 = leading.length then .alreadyExists else .notADirectory)
        | .error cause => return ← refuse step cause
    if path.isEmpty then refuse path .notFound else return true
  else
    match ← makeDirectoryAt path mode? with
    | .ok () =>
      tell path
      return true
    | .error cause => refuse path cause

def makeDirectories : Tool := fun _ =>
  withTable
    { flags := "pv", valued := "m", long := [("parents", 'p'), ("verbose", 'v'), ("mode", 'm')] } 1
    fun call => do
      let steps? := (call.value? 'm').map Mode.readChange?
      if call.operands.isEmpty then missingOperand call "missing operand"
      else if steps? = some none then
        complainAs call.name (ascii "invalid mode " ++ inMarks ((call.value? 'm').getD []))
        return 1
      else
        let mask := (← get).mask
        let mode? := steps?.join.map fun steps => Mode.afterSteps mask true steps ⟨0o777⟩
        forOperands call.operands (makeDirectoryOf call mode?)

def removeDirectoryOf (call : Call) (path : Octets) : Act Bool := do
  let refuse (cause : IoError) : Act Bool := refuseFile call "failed to remove" path cause.wording
  match ← nodeAt path false with
  | .error cause => refuse cause
  | .ok id =>
    let found ← files
    if !found.isDirectory id then refuse .notADirectory
    else if lastName path == ['.'] then refuse .invalidArgument
    else if !(found.entries id).isEmpty then refuse .notEmpty
    else match ← changeableSpotOf path with
      | .error cause => refuse cause
      | .ok (directory, name) =>
        changeFiles (·.remove directory name)
        return true

def removeDirectories : Tool := fun _ =>
  withTable { flags := "pv", long := [("parents", 'p'), ("verbose", 'v')] } 1 fun call => do
    if call.operands.isEmpty then missingOperand call "missing operand"
    else forOperands call.operands fun path => do
      if call.has 'p' then (leadingPaths path).reverse.allM (removeDirectoryOf call)
      else removeDirectoryOf call path

/-- Make a file that is empty if there is none. -/
def touchFile (call : Call) (path : Octets) : Act Bool := do
  match ← nodeAt path with
  | .ok _ => return true
  | .error _ =>
    if call.has 'c' then return true
    match ← openPath path .appending with
    | .ok _ => return true
    | .error .isADirectory => refuseFile call "setting times of" path "Not a directory"
    | .error cause => refuseFile call "cannot touch" path cause.wording

/-- Make files that are empty if there are none. -/
def touchFiles : Tool := fun _ =>
  withTable { flags := "camfh", valued := "drt", long := [("no-create", 'c')] } 1 fun call => do
    if call.operands.isEmpty then missingOperand call "missing file operand"
    else forOperands call.operands (touchFile call)

def copiedMode (call : Call) (mask : Nat) (mode : Mode) : Mode :=
  if call.has 'p' || call.has 'a' then mode else mode.masked mask

/-- Whether a directory is another one or lies below it. -/
def liesIn (found : FileSystem) (outer : Nat) : (fuel : Nat) → (id : Nat) → Bool
  | 0, _ => false
  | fuel + 1, id => id == outer || (id != 0 && liesIn found outer fuel (found.parent id))

/-- Where the operands of a call go: into a directory, or to a path. -/
inductive Destination where
  | into (directory : Octets) (sources : List Octets)
  | to (path source : Octets)

/-- Where the operands of a call go; `none` if that has been told not to make sense. -/
def destinationOf (call : Call) (failure : String) : Act (Option Destination) := do
  match call.value? 't', call.operands.reverse with
  | _, [] =>
    complainOfWords call.name (ascii failure)
    return none
  | some directory, _ => return some (.into directory call.operands)
  | none, [only] =>
    complainOfWords call.name (ascii "missing destination file operand after " ++ inQuotes only)
    return none
  | none, [last, source] =>
    if !call.has 'T' && (← leadsToDirectory last) then return some (.into last [source])
    else return some (.to last source)
  | none, last :: sources =>
    match ← nodeAt last with
    | .ok id =>
      if (← files).isDirectory id then return some (.into last sources.reverse)
      complainAs call.name (ascii "target " ++ inQuotes last ++ ascii ": Not a directory")
      return none
    | .error cause =>
      complainAs call.name (ascii "target " ++ inQuotes last ++ ascii (": " ++ cause.wording))
      return none

/-- Do something with each source and the path it goes to. -/
def Destination.forEach (destination : Destination) (act : (source path : Octets) → Act Bool) :
    Act Nat :=
  match destination with
  | .into directory sources =>
    forOperands sources fun source => act source (below directory (lastName source))
  | .to path source => forOperands [source] fun source => act source path

def tellMove (call : Call) (what : String) (source path : Octets) : Act Unit :=
  if call.has 'v' then
    print (ascii what ++ inQuotes source ++ ascii " -> " ++ inQuotes path ++ ['\n'])
  else return ()

/-- Tell that a file cannot be copied because it cannot be read. -/
def refuseReading (call : Call) (source : Octets) (cause : IoError) : Act Bool := do
  complainAs call.name (ascii "cannot open " ++ inQuotes source ++
    ascii (" for reading: " ++ cause.wording))
  return false

/-- Copy a node, and what is in it, to a node that may be there; gives the number of the copy if there is one,
    and whether all could be copied. -/
def copyTree (call : Call) (modeOf : Mode → Mode) :
    (fuel : Nat) → (source path : Octets) → (parent id : Nat) → (old? : Option Nat) →
      Act (Option Nat × Bool)
  | 0, _, _, _, _, _ => return (none, false)
  | fuel + 1, source, path, parent, id, old? => do
    let found ← files
    let overDirectory := old?.any found.isDirectory
    match found.node id with
    | .directory _ entries mode =>
      if old?.isSome && !overDirectory then
        complainAs call.name (ascii "cannot overwrite non-directory " ++ inQuotes path ++
          ascii " with directory " ++ inQuotes source)
        return (none, false)
      let copy ← match old? with
        | some old => pure old
        | none =>
          let (copy, found) := found.add (.directory parent [] (modeOf mode))
          setFiles found
          tellMove call "" source path
          pure copy
      if !mode.canRead then
        return (some copy, ← refuseFile call "cannot access" source "Permission denied")
      let mut good := true
      for (name, inner) in entries do
        let inside := below source (Text.octets name)
        if !mode.canRun then good ← refuseFile call "cannot stat" inside "Permission denied"
        else
          let old? := (found.entries copy).lookup name
          let (innerCopy?, whole) ←
            copyTree call modeOf fuel inside (below path (Text.octets name)) copy inner old?
          good := good && whole
          match innerCopy? with
          | some innerCopy => changeFiles (·.enter copy name innerCopy)
          | none => pure ()
      return (some copy, good)
    | node =>
      if overDirectory then
        complainAs call.name (ascii "cannot overwrite directory " ++ inQuotes path ++
          ascii " with non-directory")
        return (none, false)
      if old?.isSome && call.has 'n' then return (none, true)
      if !(found.mode id).canRead then
        return (none, ← refuseReading call source .permissionDenied)
      match old?, node with
      | some old, .file bytes _ =>
        match found.writeNode old bytes with
        | .ok found =>
          setFiles found
          tellMove call "" source path
          return (none, true)
        | .error cause =>
          return (none, ← refuseFile call "cannot create regular file" path cause.wording)
      | _, _ =>
        let (copy, found) := found.add node
        setFiles (found.setMode copy (modeOf (found.mode copy)))
        tellMove call "" source path
        return (some copy, true)

/-- Copy a file or a directory to a path. -/
def copyTo (call : Call) (source path : Octets) : Act Bool := do
  let deep := call.has 'r' || call.has 'R' || call.has 'a'
  let asLink := call.has 'P' || call.has 'd' || (deep && !call.has 'L')
  let mask := (← get).mask
  match ← nodeAt source !asLink with
  | .error cause => refuseFile call "cannot stat" source cause.wording
  | .ok id =>
    let found ← files
    let isDirectory := found.isDirectory id
    if isDirectory && !deep then
      return ← refuseFile call "-r not specified; omitting directory" source ""
    let same : Act Bool := do
      complainAs call.name (inQuotes source ++ ascii " and " ++ inQuotes path ++
        ascii " are the same file")
      return false
    let goAhead : Act Bool := do
      tellMove call "" source path
      return true
    match ← nodeAt path with
    | .ok old =>
      if old = id && !isDirectory then return ← same
      if call.has 'n' then return true
      if isDirectory && !found.isDirectory old then
        complainAs call.name (ascii "cannot overwrite non-directory " ++ inQuotes path ++
          ascii " with directory " ++ inQuotes source)
        return false
      if !isDirectory && found.isDirectory old then
        complainAs call.name (ascii "cannot overwrite directory " ++ inQuotes path ++
          ascii " with non-directory")
        return false
      if isDirectory then
        let (_, whole) ← copyTree call (copiedMode call mask) found.nodes.size source path 0 id
          (some old)
        return whole
      else
        match found.node id with
        | .link _ =>
          match ← changeableSpotOf path with
          | .ok (directory, name) =>
            let (copy, found) := found.add (found.node id)
            setFiles (found.enter directory name copy)
            goAhead
          | .error cause => refuseFile call "cannot create symbolic link" path cause.wording
        | _ =>
          match ← readFile source with
          | .error cause => refuseReading call source cause
          | .ok bytes =>
            match ← openPath path .writing, ← changeableSpotOf path with
            | .ok stream, _ =>
              discard (writeStream stream (Text.arrayOf bytes))
              if call.has 'p' || call.has 'a' then
                changeFiles (·.setMode old (found.mode id))
              goAhead
            | .error cause, .ok (directory, name) =>
              if call.has 'f' then
                let (copy, found) := found.create directory name (Text.arrayOf bytes)
                setFiles (found.setMode copy (copiedMode call mask (found.mode id)))
                goAhead
              else refuseFile call "cannot create regular file" path cause.wording
            | .error cause, .error _ =>
              refuseFile call "cannot create regular file" path cause.wording
    | .error cause =>
      let what := if isDirectory then "cannot create directory" else "cannot create regular file"
      if cause != .notFound then return ← refuseFile call "cannot stat" path cause.wording
      match ← resolve (if isDirectory then trimSlashes path else path) false with
      | .vacant directory name =>
        if !isDirectory && path.getLast? = some '/' then
          return ← refuseFile call what path "Not a directory"
        let inItself := isDirectory && liesIn found id found.nodes.size directory
        let bytes ← match found.node id with
          | .device _ => pure (((← readFile source).toOption).getD [])
          | _ => pure []
        if !isDirectory && !(found.mode id).canRead then
          return ← refuseReading call source .permissionDenied
        if !found.canChange directory then return ← refuseFile call what path "Permission denied"
        let (copy?, whole) ← copyTree call (copiedMode call mask) found.nodes.size source path directory
          id none
        let found ← files
        match copy? with
        | none => return false
        | some copy =>
          let found := match found.node copy with
            | .device _ => found.replace copy
                (.file (Text.arrayOf bytes) (Mode.masked ⟨0o666⟩ mask))
            | _ => found
          setFiles (found.enter directory name copy)
          if inItself then
            complainAs call.name (ascii "cannot copy a directory, " ++ inQuotes source ++
              ascii ", into itself, " ++ inQuotes path)
            return false
          return whole
      | .node _ => refuseFile call "not writing through dangling symlink" path ""
      | .unreachable _ => refuseFile call what path cause.wording

def copyFiles : Tool := fun _ =>
  withTable
    { flags := "rRafpPdLnvTuix", valued := "tS"
      long := [("recursive", 'r'), ("force", 'f'), ("archive", 'a'), ("no-clobber", 'n'),
        ("verbose", 'v'), ("no-target-directory", 'T'), ("target-directory", 't'),
        ("preserve", 'p')] } 1
    fun call => do
      match ← destinationOf call "missing file operand" with
      | none => return 1
      | some destination => destination.forEach (copyTo call)

/-- Move a file or a directory to a path. -/
def moveTo (call : Call) (source path : Octets) : Act Bool := do
  match ← nodeAt source false, ← spotOf source with
  | .error cause, _ | _, .error cause => refuseFile call "cannot stat" source cause.wording
  | .ok id, .ok (origin, oldName) =>
    let found ← files
    let isDirectory := found.isDirectory id
    let refuse (cause : IoError) : Act Bool := do
      complainAs call.name (ascii "cannot move " ++ inQuotes source ++ ascii " to " ++
        inQuotes path ++ ascii (": " ++ cause.wording))
      return false
    let enter (directory : Nat) (name : String) : Act Bool := do
      if !found.canChange directory || !found.canChange origin then return ← refuse .permissionDenied
      let moved := (found.remove origin oldName).enter directory name id
      setFiles (match moved.node id with
        | .directory _ entries mode => moved.replace id (.directory directory entries mode)
        | _ => moved)
      tellMove call "renamed " source path
      return true
    match ← resolve (trimSlashes path) false with
    | .unreachable .permissionDenied => refuseFile call "cannot stat" path "Permission denied"
    | .unreachable cause => refuse cause
    | .vacant directory name =>
      if isDirectory && liesIn found id found.nodes.size directory then
        complainAs call.name (ascii "cannot move " ++ inQuotes source ++
          ascii " to a subdirectory of itself, " ++ inQuotes path)
        return false
      if !isDirectory && path.getLast? = some '/' then refuse .notADirectory
      else enter directory name
    | .node old =>
      let oldIsDirectory := found.isDirectory old
      if old = id then
        complainAs call.name (inQuotes source ++ ascii " and " ++ inQuotes path ++
          ascii " are the same file")
        return false
      if call.has 'n' then return true
      if isDirectory && !oldIsDirectory then
        complainAs call.name (ascii "cannot overwrite non-directory " ++ inQuotes path ++
          ascii " with directory " ++ inQuotes source)
        return false
      if !isDirectory && oldIsDirectory then
        complainAs call.name (ascii "cannot overwrite directory " ++ inQuotes path ++
          ascii " with non-directory")
        return false
      if oldIsDirectory && !(found.entries old).isEmpty then refuse .notEmpty
      else match ← spotOf path with
        | .ok (directory, name) => enter directory name
        | .error cause => refuse cause

def moveFiles : Tool := fun _ =>
  withTable
    { flags := "fnvTui", valued := "tS"
      long := [("force", 'f'), ("no-clobber", 'n'), ("verbose", 'v'),
        ("no-target-directory", 'T'), ("target-directory", 't')] } 1
    fun call => do
      match ← destinationOf call "missing file operand" with
      | none => return 1
      | some destination => destination.forEach (moveTo call)

def linkTo (call : Call) (target path : Octets) : Act Bool := do
  let symbolic := call.has 's'
  let refuse (cause : IoError) : Act Bool := do
    let both := if symbolic then cause = .nameTooLong || target.isEmpty
      else cause != .alreadyExists && cause != .storageFull
    complainAs call.name (ascii ("failed to create " ++ (if symbolic then "symbolic" else "hard") ++
        " link ") ++ inQuotes path ++
      (if both then ascii (if symbolic then " -> " else " => ") ++ inQuotes target else []) ++
      ascii (": " ++ cause.wording))
    return false
  let origin ← if symbolic then pure (.ok 0) else nodeAt target false
  match origin with
  | .error cause => refuseFile call "failed to access" target cause.wording
  | .ok id =>
    if !symbolic && (← files).isDirectory id then
      complainAs call.name (fileName target ++ ascii ": hard link not allowed for directory")
      return false
    let enter (directory : Nat) (name : String) : Act Bool := do
      if !(← files).canChange directory then return ← refuse .permissionDenied
      if symbolic then
        changeFiles fun found => (found.plant directory name (.link (Text.textOf target))).2
      else changeFiles (·.enter directory name id)
      if call.has 'v' then
        print (inQuotes path ++ ascii (if symbolic then " -> " else " => ") ++ inQuotes target ++
          ['\n'])
      return true
    match ← resolve path false with
    | .vacant directory name => enter directory name
    | .unreachable cause => refuse cause
    | .node old =>
      if call.has 'f' && !(← files).isDirectory old then
        match ← spotOf path with
        | .ok (directory, name) => enter directory name
        | .error cause => refuse cause
      else refuse .alreadyExists

def linkFiles : Tool := fun _ =>
  withTable
    { flags := "sfnvrTPLib", valued := "tS"
      long := [("symbolic", 's'), ("force", 'f'), ("verbose", 'v'), ("no-dereference", 'n'),
        ("no-target-directory", 'T'), ("target-directory", 't')] } 1
    fun call => do
      match call.operands with
      | [] => missingOperand call "missing file operand"
      | [target] => forOperands [target] fun target => linkTo call target (lastName target)
      | _ =>
        let last := call.operands.getLastD []
        let isLink ← do
          match ← nodeAt last false with
          | .ok id =>
            match (← files).node id with
            | .link _ => pure true
            | _ => pure false
          | .error _ => pure false
        let call := if call.has 'n' && isLink then { call with options := ('T', []) :: call.options }
          else call
        match ← destinationOf call "missing file operand" with
        | none => return 1
        | some destination => destination.forEach (linkTo call)

/-- The nodes in a directory and in those below it, and the directory itself. -/
def nodesBelow (found : FileSystem) : (fuel : Nat) → (path : Octets) → (id : Nat) → List (Octets × Nat)
  | 0, _, _ => []
  | fuel + 1, path, id =>
    (path, id) :: (found.entries id).flatMap fun (name, inner) =>
      nodesBelow found fuel (below path (Text.octets name)) inner

def modeText (mode : Mode) : Octets :=
  let digits := Nat.toDigits 8 mode.bits
  List.replicate (4 - digits.length) '0' ++ digits ++ ascii (" (" ++ mode.letters ++ ")")

/-- Change the permissions of a node. -/
def changeModeOf (call : Call) (steps : List Mode.Step) (path : Octets) (id : Nat) : Act Unit := do
  let found ← files
  let old := found.mode id
  match found.node id with
  | .link _ => return
  | _ =>
    let new := Mode.afterSteps (← get).mask (found.isDirectory id) steps old
    setFiles (found.setMode id new)
    if call.has 'v' || (call.has 'c' && new != old) then
      print (ascii "mode of " ++ inQuotes path ++
        (if new = old then ascii " retained as " ++ modeText old
         else ascii " changed from " ++ modeText old ++ ascii " to " ++ modeText new) ++ ['\n'])

/-- Words in which a mode that starts like an option is none. -/
def withPlainMode (words : List Octets) : List Octets :=
  match words with
  | ('-' :: c :: rest) :: others =>
    if "rwxXst".toList.contains c then ['-', '-'] :: ('-' :: c :: rest) :: others else words
  | words => words

/-- Change the permissions of files. -/
def changeModes : Tool := fun _ name words =>
  withTable
    { flags := "Rvcf", valued := "m"
      long := [("recursive", 'R'), ("verbose", 'v'), ("changes", 'c'), ("reference", 'm')] } 1
    (fun call => do
      let likeAnother ← match call.value? 'm' with
        | some path =>
          match ← nodeAt path with
          | .ok id => pure (some (Mode.Step.mk Mode.allBits '=' (.bits ((← files).mode id).bits)
              Mode.allBits))
          | .error cause =>
            complainAs name (ascii "failed to get attributes of " ++ inQuotes path ++
              ascii (": " ++ cause.wording))
            return 1
        | none => pure none
      let (steps?, mode, paths) := match likeAnother, call.operands with
        | some step, paths => (some [step], [], paths)
        | none, mode :: paths => (Mode.readChange? mode, mode, paths)
        | none, [] => (none, [], [])
      match steps?, call.operands, paths with
      | _, [], _ => missingOperand call "missing operand"
      | _, _, [] =>
        complainOfWords name (ascii "missing operand after " ++ inMarks mode)
        return 1
      | none, _, _ =>
        complainOfWords name (ascii "invalid mode: " ++ inMarks mode)
        return 1
      | some steps, _, paths =>
        forOperands paths fun path => do
          match ← nodeAt path with
          | .ok id =>
            let found ← files
            for (path, id) in if call.has 'R' then nodesBelow found found.nodes.size path id
                else [(path, id)] do
              changeModeOf call steps path id
            return true
          | .error cause =>
            match ← nodeAt path false with
            | .ok _ =>
              if cause = .notFound then
                refuseFile call "cannot operate on dangling symlink" path ""
              else refuseFile call "cannot access" path cause.wording
            | .error _ => refuseFile call "cannot access" path cause.wording)
    name (withPlainMode words)

/-- The path from the root to what a path leads to, or to where it could be. -/
def canonicalPath (path : Octets) (mustExist : Bool) : Act (Except IoError Octets) := do
  let found ← files
  let place ← resolve path
  let pathOf (id : Nat) : Octets :=
    let rec go : (fuel : Nat) → Nat → Octets
      | 0, _ | _ + 1, 0 => []
      | fuel + 1, id =>
        let above := found.parent id
        match (found.entries above).find? fun entry => entry.2 == id with
        | some (name, _) => go fuel above ++ '/' :: Text.octets name
        | none => []
    go found.nodes.size id
  match place with
  | .unreachable cause => return .error cause
  | .vacant directory name =>
    if mustExist then return .error .notFound
    else return .ok (pathOf directory ++ '/' :: Text.octets name)
  | .node id =>
    if found.isDirectory id then return .ok (if id = 0 then ['/'] else pathOf id)
    else
      let holder := (List.range found.nodes.size).find? fun n =>
        (found.entries n).any fun entry => entry.2 == id
      match holder with
      | some directory =>
        let name := ((found.entries directory).find? fun entry => entry.2 == id).map (·.1)
        return .ok (pathOf directory ++ '/' :: Text.octets (name.getD ""))
      | none => return .error .notFound

/-- Show where links lead. -/
def readLinks : Tool := fun _ =>
  withTable
    { flags := "femnqsvz"
      long := [("canonicalize", 'f'), ("canonicalize-existing", 'e'), ("no-newline", 'n')] } 1
    fun call => do
      if call.operands.isEmpty then missingOperand call "missing operand"
      else forOperands call.operands fun path => do
        let put (text : Octets) : Act Bool := do
          print (text ++ (if call.has 'n' then [] else ['\n']))
          return true
        if call.has 'f' || call.has 'e' || call.has 'm' then
          match ← canonicalPath path (call.has 'e') with
          | .ok text => put text
          | .error _ => return false
        else
          match ← nodeAt path false with
          | .error _ => return false
          | .ok id =>
            match (← files).node id with
            | .link target => put (Text.octets target)
            | _ => return false

/-- Show paths without links. -/
def realPaths : Tool := fun _ =>
  withTable { flags := "emsqz" } 1 fun call => do
    if call.operands.isEmpty then missingOperand call "missing operand"
    else forOperands call.operands fun path => do
      match ← canonicalPath path (call.has 'e') with
      | .ok text =>
        print (text ++ ['\n'])
        return true
      | .error cause =>
        if !call.has 'q' then complainOfFile call.name path cause
        return false

end AsmLayout.Host
