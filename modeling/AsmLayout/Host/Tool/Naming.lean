import AsmLayout.Host.Tool.Files

/-! # Tools that give and take names -/

namespace AsmLayout.Host

open Text (Octets)

/-- The operands of a tool that takes a certain number of them, or none after telling what is wrong. -/
def exactOperands (call : Call) (count : Nat) : Act (Option (List Octets)) := do
  let refuse (message : Octets) : Act (Option (List Octets)) := do
    complainOfWords call.name message
    return none
  match call.operands, call.operands.drop count with
  | [], _ => refuse (ascii "missing operand")
  | _, extra :: _ => refuse (ascii "extra operand " ++ inMarks extra)
  | operands, [] =>
    if operands.length < count then
      refuse (ascii "missing operand after " ++ inMarks (operands.getLastD []))
    else return some operands

def nameFile : Tool := fun _ =>
  withTable {} 1 fun call => do
    match ← exactOperands call 2 with
    | some [target, path] =>
      let refuse (cause : String) : Act Nat := do
        complainAs call.name (ascii "cannot create link " ++ inQuotes path ++ ascii " to " ++
          inQuotes target ++ ascii (": " ++ cause))
        return 1
      match ← nodeAt target false, ← resolve path false with
      | .error cause, _ | _, .unreachable cause => refuse cause.wording
      | _, .node _ => refuse IoError.alreadyExists.wording
      | .ok id, .vacant directory name =>
        let found ← files
        if found.isDirectory id then refuse "Operation not permitted"
        else if !found.canChange directory then refuse IoError.permissionDenied.wording
        else
          changeFiles (·.enter directory name id)
          return 0
    | _ => return 1

/-- Take a name from a file. -/
def unnameFile : Tool := fun _ =>
  withTable {} 1 fun call => do
    match ← exactOperands call 1 with
    | some [path] =>
      let refuse (cause : IoError) : Act Nat := do
        complainAs call.name (ascii "cannot unlink " ++ inQuotes path ++ ascii (": " ++ cause.wording))
        return 1
      match ← nodeAt path false with
      | .error cause => refuse cause
      | .ok id =>
        if (← files).isDirectory id then refuse .isADirectory
        else match ← changeableSpotOf path with
          | .error cause => refuse cause
          | .ok (directory, name) =>
            changeFiles (·.remove directory name)
            return 0
    | _ => return 1

/-- See that files are stored, which they are. -/
def storeFiles : Tool := fun _ =>
  withTable { flags := "df", long := [("data", 'd'), ("file-system", 'f')] } 1 fun call =>
    forOperands call.operands fun path => do
      match ← nodeAt path with
      | .ok _ => return true
      | .error cause =>
        complainAs call.name (ascii "error opening " ++ inQuotes path ++ ascii (": " ++ cause.wording))
        return false

/-! ## Names that nothing has -/

/-- A pattern of a name, with the places that are filled in. -/
structure FreshName where
  front : Octets
  places : Nat
  back : Octets
  deriving Repr, DecidableEq

/-- A pattern with a number in its places. -/
def FreshName.fill (pattern : FreshName) (n : Nat) : Octets :=
  let letters := "abcdefghijklmnopqrstuvwxyzABCDEFGHIJKLMNOPQRSTUVWXYZ0123456789".toList
  let rec digits : (count : Nat) → (n : Nat) → Octets
    | 0, _ => []
    | count + 1, n => letters.getD (n % 62) 'a' :: digits count (n / 62)
  pattern.front ++ digits pattern.places n ++ pattern.back

/-- The first filling from a number on that nothing has as its name. -/
def FreshName.firstVacant (pattern : FreshName) : (fuel : Nat) → (n : Nat) → Act Octets
  | 0, n => return pattern.fill n
  | fuel + 1, n => do
    match ← resolve (pattern.fill n) false with
    | .node _ => firstVacant pattern fuel (n + 1)
    | _ => return pattern.fill n

/-- Where a fresh name is wanted, or what is wrong with the wishes. -/
def freshNameOf (call : Call) (standard? : Option Octets) (template : Octets) :
    Except Octets FreshName := do
  let behind := (template.reverse.takeWhile (· != 'X')).reverse
  let hasPlace := behind.length < template.length
  let suffix := match call.value? 's' with
    | some suffix => suffix
    | none => if hasPlace then behind else []
  if call.has 's' && template.getLast? != some 'X' then
    throw (ascii "with --suffix, template " ++ inMarks template ++ ascii " must end in X")
  if suffix.contains '/' then
    throw (ascii "invalid suffix " ++ inMarks suffix ++ ascii ", contains directory separator")
  let front := if call.has 's' then template else template.take (template.length - suffix.length)
  let places := (front.reverse.takeWhile (· == 'X')).length
  if places < 3 then throw (ascii "too few X's in template " ++ inMarks template)
  let front := front.take (front.length - places)
  let chosen? := (call.value? 'p').filter fun path => !path.isEmpty
  let usual? := standard?.filter fun path => !path.isEmpty
  let directory? ←
    if call.has 't' then do
      if template.contains '/' then
        throw (ascii "invalid template, " ++ inMarks template ++ ascii ", contains directory separator")
      pure (some ((usual?.orElse fun _ => chosen?).getD (ascii "/tmp")))
    else if call.has 'p' || call.operands.isEmpty then do
      if template.head? = some '/' then
        throw (ascii "invalid template, " ++ inMarks template ++
          ascii "; with --tmpdir, it may not be absolute")
      pure (some ((chosen?.orElse fun _ => usual?).getD (ascii "/tmp")))
    else pure none
  return ⟨match directory? with
    | some directory => below directory front
    | none => front, places, suffix⟩

/-- Make a file or a directory with a name that nothing else has. -/
def makeFresh : Tool := fun _ =>
  withTable
    { flags := "dqut", valued := "ps", optional := "p"
      long := [("directory", 'd'), ("quiet", 'q'), ("dry-run", 'u'), ("tmpdir", 'p'), ("suffix", 's')] } 1
    fun call => do
      match call.operands with
      | _ :: _ :: _ =>
        complainOfWords call.name (ascii "too many templates")
        return 1
      | operands =>
        let template := operands.headD (ascii "tmp.XXXXXXXXXX")
        match freshNameOf call (← environment? "TMPDIR") template with
        | .error message =>
          complainAs call.name message
          return 1
        | .ok pattern =>
          let path ← pattern.firstVacant 3844 (← files).nodes.size
          let made : Except IoError Unit ←
            if call.has 'u' then pure (.ok ())
            else if call.has 'd' then makeDirectoryAt path (some ⟨0o700⟩)
            else match ← changeableSpotOf path with
              | .error cause => pure (.error cause)
              | .ok (directory, name) =>
                changeFiles fun found =>
                  (found.plant directory name (.file ByteArray.empty ⟨0o600⟩)).2
                pure (.ok ())
          match made with
          | .ok () =>
            print (path ++ ['\n'])
            return 0
          | .error cause =>
            if !call.has 'q' then
              let shown := pattern.front ++ List.replicate pattern.places 'X' ++ pattern.back
              complainAs call.name (ascii ("failed to create " ++
                (if call.has 'd' then "directory" else "file") ++ " via template ") ++ inMarks shown ++
                ascii (": " ++ cause.wording))
            return 1

end AsmLayout.Host
