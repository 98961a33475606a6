import AsmLayout.Host.Tool.Files

/-! # Tools that show what is in directories

A listing has a row for each name. Its long form tells what the name stands for, in columns as wide as their
widest entry.
-/

namespace AsmLayout.Host

open Text (Octets)

def kindMark (call : Call) (node : Node) : Octets :=
  match node with
  | .directory _ _ _ => if call.has 'F' || call.has 'p' then ['/'] else []
  | .link _ => if call.has 'F' then ['@'] else []
  | .file _ mode | .program _ mode => if call.has 'F' && mode.isRunnable then ['*'] else []
  | _ => []

def kindLetter (node : Node) : Char :=
  match node with
  | .directory _ _ _ => 'd'
  | .link _ => 'l'
  | .device _ => 'c'
  | .file _ _ | .program _ _ => '-'

def kindName (found : FileSystem) (id : Nat) : Octets :=
  match found.node id with
  | .directory .. => ascii "directory"
  | .link _ => ascii "symbolic link"
  | .device _ => ascii "character special file"
  | .file bytes _ => if bytes.isEmpty then ascii "regular empty file" else ascii "regular file"
  | .program .. => ascii "regular file"

/-- How many names a node has. A directory has one in itself and one in each directory in it besides. -/
def linkCount (found : FileSystem) (id : Nat) : Nat :=
  if found.isDirectory id then
    2 + ((found.entries id).filter fun entry => found.isDirectory entry.2).length
  else
    ((List.range found.nodes.size).map fun directory =>
      ((found.entries directory).filter fun entry => entry.2 == id).length).foldl (· + ·) 0

/-- How many bytes a node takes. -/
def sizeOfNode (node : Node) : Nat :=
  match node with
  | .file bytes _ => bytes.size
  | .directory _ _ _ => 4096
  | .link target => target.utf8ByteSize
  | .program _ _ => FileSystem.programImage.size
  | .device _ => 0

/-- How many blocks of 1024 bytes a node takes. They are handed out by fours. -/
def blocksOfNode (node : Node) : Nat :=
  match node with
  | .link _ | .device _ => 0
  | node => (sizeOfNode node + 4095) / 4096 * 4

/-- A size in the greatest unit that it has one of, rounded up, with a digit behind the point if it has less
    than ten of them. -/
def roundSize (n : Nat) : Octets :=
  let rec go : List Char → (unit : Nat) → Octets
    | [], _ => Text.decimal n
    | letter :: letters, unit =>
      let tenths := (10 * n + unit - 1) / unit
      let whole := (n + unit - 1) / unit
      if tenths < 100 then Text.decimal (tenths / 10) ++ '.' :: Text.decimal (tenths % 10) ++ [letter]
      else if whole < 1024 || letters.isEmpty then Text.decimal whole ++ [letter]
      else go letters (unit * 1024)
  if n < 1024 then Text.decimal n else go ['K', 'M', 'G', 'T'] 1024

/-- When files were changed. Time stands still here. -/
def lastChange : Octets :=
  ascii "Jan  1 00:00"

structure Cell where
  text : Octets
  /-- The text stands at the right end of the cell. -/
  toTheRight : Bool := true
  deriving Repr, DecidableEq

def cellsOf (call : Call) (found : FileSystem) (id : Nat) : List Cell :=
  let node := found.node id
  let size (n : Nat) : Octets := if call.has 'h' then roundSize n else Text.decimal n
  let long := call.has 'l' || call.has 'n' || call.has 'g' || call.has 'o'
  let owner := if call.has 'n' then ['0'] else ascii "root"
  let optional (wanted : Bool) (cell : Cell) : List Cell := if wanted then [cell] else []
  optional (call.has 'i') ⟨Text.decimal id, true⟩ ++
  optional (call.has 's') ⟨size ((if call.has 'h' then 1024 else 1) * blocksOfNode node), true⟩ ++
  if !long then []
  else
    [⟨kindLetter node :: ascii (found.mode id).letters, false⟩,
      ⟨Text.decimal (linkCount found id), true⟩] ++
    optional (!call.has 'g') ⟨owner, false⟩ ++
    optional (!(call.has 'o' || call.has 'G')) ⟨owner, false⟩ ++
    [⟨size (sizeOfNode node), true⟩, ⟨lastChange, false⟩]

/-- Rows of cells in columns as wide as their widest cell. -/
def alignCells (rows : List (List Cell)) : List Octets :=
  let width (n : Nat) : Nat :=
    (rows.map fun row => ((row[n]?.map (·.text.length)).getD 0)).foldl max 0
  rows.map fun row =>
    row.zipIdx.flatMap fun (cell, n) =>
      let blanks := List.replicate (width n - cell.text.length) ' '
      (if cell.toTheRight then blanks ++ cell.text else cell.text ++ blanks) ++ [' ']

abbrev Named := Octets × Nat

def inOrder (call : Call) (found : FileSystem) (names : List Named) : List Named :=
  if call.has 'U' || call.has 'f' then names
  else
    let sorted := names.mergeSort fun a b => precedes a.1 b.1
    let size (name : Named) : Nat := sizeOfNode (found.node name.2)
    let sorted := if call.has 'S' then sorted.mergeSort fun a b => size b ≤ size a else sorted
    if call.has 'r' then sorted.reverse else sorted

def rowsOf (call : Call) (found : FileSystem) (names : List Named) : Octets :=
  let nameText (name : Named) : Octets :=
    let node := found.node name.2
    let text := if call.has 'Q' then '"' :: name.1 ++ ['"'] else name.1
    match node with
    | .link target =>
      if call.has 'l' then text ++ ascii (" -> " ++ target) else text ++ kindMark call node
    | node => text ++ kindMark call node
  let fronts := alignCells (names.map fun name => cellsOf call found name.2)
  let rows := fronts.zipWith (fun front name => front ++ nameText name) names
  if call.has 'm' then
    let rec wrap : (column : Nat) → List Octets → Octets
      | _, [] => ['\n']
      | column, row :: rows =>
        let behind := if rows.isEmpty then 0 else 1
        if column = 0 then row ++ wrap row.length rows
        else if column + 2 + row.length + behind < 80 then
          ascii ", " ++ row ++ wrap (column + 2 + row.length) rows
        else [',', '\n'] ++ row ++ wrap row.length rows
    if rows.isEmpty then [] else wrap 0 rows
  else rows.flatMap (· ++ ['\n'])

/-- The sum of what stands in a listing, if it is shown. -/
def totalOf (call : Call) (found : FileSystem) (names : List Named) : Octets :=
  if call.has 'l' || call.has 's' || call.has 'n' || call.has 'g' || call.has 'o' then
    let blocks := (names.map fun name => blocksOfNode (found.node name.2)).foldl (· + ·) 0
    ascii "total " ++ (if call.has 'h' then roundSize (1024 * blocks) else Text.decimal blocks) ++
      ['\n']
  else []

/-- A directory that is shown: its path, and the names in it unless they cannot be read. -/
structure Table where
  path : Octets
  names? : Option (List Named)
  /-- It was named in the call. -/
  asked : Bool

/-- The names in a directory, and in those below it if asked for. -/
def tablesFrom (call : Call) (found : FileSystem) :
    (fuel : Nat) → (asked : Bool) → (path : Octets) → (id : Nat) → List Table
  | 0, _, _, _ => []
  | fuel + 1, asked, path, id =>
    if !(found.mode id).canRead then [⟨path, none, asked⟩]
    else
      let all := (found.entries id).map fun (name, inner) => (Text.octets name, inner)
      let dots : List Named :=
        if call.has 'a' || call.has 'f' then [(['.'], id), (['.', '.'], found.parent id)] else []
      let hidden := call.has 'a' || call.has 'A' || call.has 'f'
      let names := inOrder call found
        (dots ++ all.filter fun entry => hidden || entry.1.head? != some '.')
      let deeper := if call.has 'R' then
          (names.filter fun entry =>
            found.isDirectory entry.2 && entry.1 != ['.'] && entry.1 != ['.', '.']).flatMap
            fun (name, inner) => tablesFrom call found fuel false (below path name) inner
        else []
      ⟨path, some names, asked⟩ :: deeper

/-- Show names of files. -/
def listFiles : Tool := fun _ =>
  withTable
    { flags := "1aAdfFprRltSsnhiCUqkgomGNQxcu\x00", valued := "I", optional := "\x00F"
      long := [("all", 'a'), ("almost-all", 'A'), ("directory", 'd'), ("classify", 'F'),
        ("recursive", 'R'), ("reverse", 'r'), ("human-readable", 'h'), ("inode", 'i'), ("size", 's'),
        ("no-group", 'G'), ("numeric-uid-gid", 'n'), ("color", '\x00'), ("literal", 'N'),
        ("quote-name", 'Q')] } 2
    fun call => do
      let found ← files
      let mut status := 0
      let mut plain : List Named := []
      let mut directories : List Named := []
      for path in if call.operands.isEmpty then [['.']] else call.operands do
        let bare := call.has 'd' || call.has 'F' || call.has 'l'
        let id? : Except IoError Nat ← match ← nodeAt path (!bare || path.getLast? = some '/') with
          | .ok id => pure (.ok id)
          | .error cause => do
            match ← nodeAt path false with
            | .ok id => pure (.ok id)
            | .error _ => pure (.error cause)
        match id? with
        | .error cause =>
          discard (refuseFile call "cannot access" path cause.wording)
          status := 2
        | .ok id =>
          if found.isDirectory id && !call.has 'd' then directories := directories ++ [(path, id)]
          else plain := plain ++ [(path, id)]
      let tables := (inOrder call found directories).flatMap fun (path, id) =>
        tablesFrom call found found.nodes.size true path id
      for table in tables do
        if table.names?.isNone then
          complainAs call.name (ascii "cannot open directory " ++ inQuotes table.path ++
            ascii ": Permission denied")
          status := max status (if table.asked then 2 else 1)
      print (rowsOf call found (inOrder call found plain))
      let headings := call.has 'R' || 1 < call.operands.length
      let mut first := plain.isEmpty
      for table in tables do
        match table.names? with
        | none => pure ()
        | some names =>
          if headings then print ((if first then [] else ['\n']) ++ table.path ++ [':', '\n'])
          first := false
          print (totalOf call found names ++ rowsOf call found names)
      return status

end AsmLayout.Host
