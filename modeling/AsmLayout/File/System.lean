import AsmLayout.File.Content
import AsmLayout.File.Mode
import AsmLayout.Text.Octets

/-! # A file system held in memory

Files, directories, links and devices are nodes that are known by their number; directories give names
to nodes. A path leads from name to name, through links, to a node or to a place where one can be made.
-/

namespace AsmLayout

inductive Device where
  /-- It is empty, and what is written there is gone. -/
  | null
  /-- It gives zeros without end. -/
  | zero
  /-- It gives zeros, and nothing can be written there. -/
  | full
  /-- The terminal of a process, which has none. -/
  | terminal
  /-- The open file of the process that opens it. -/
  | descriptor (number : Nat)
  deriving Repr, DecidableEq

/-- What a name can stand for. -/
inductive Node where
  | file (bytes : ByteArray) (mode : Mode)
  | directory (parent : Nat) (entries : List (String × Nat)) (mode : Mode)
  | link (target : String)
  | device (device : Device)
  /-- A program of the system. -/
  | program (name : String) (mode : Mode)

/-- Nodes by their number, and the directory where paths without a slash in front start. The first node
    is the root. -/
structure FileSystem where
  nodes : Array Node
  working : Nat

inductive Place where
  | node (id : Nat)
  /-- Nothing stands there, but something can be made under the name in the directory. -/
  | vacant (directory : Nat) (name : String)
  | unreachable (cause : IoError)
  deriving Repr, DecidableEq

namespace FileSystem

def node (files : FileSystem) (id : Nat) : Node :=
  files.nodes.getD id (.directory 0 [] .usualDirectory)

/-- Put a node in the place of another one. -/
def replace (files : FileSystem) (id : Nat) (node : Node) : FileSystem :=
  { files with nodes := files.nodes.setIfInBounds id node }

/-- Add a node that has no name yet. -/
def add (files : FileSystem) (node : Node) : Nat × FileSystem :=
  (files.nodes.size, { files with nodes := files.nodes.push node })

def isDirectory (files : FileSystem) (id : Nat) : Bool :=
  match files.node id with
  | .directory _ _ _ => true
  | _ => false

/-- The names in a directory with their nodes. -/
def entries (files : FileSystem) (id : Nat) : List (String × Nat) :=
  match files.node id with
  | .directory _ entries _ => entries
  | _ => []

/-- The permissions of a node. Links and devices have all of them. -/
def mode (files : FileSystem) (id : Nat) : Mode :=
  match files.node id with
  | .file _ mode | .directory _ _ mode | .program _ mode => mode
  | .link _ => ⟨0o777⟩
  | .device _ => ⟨0o666⟩

/-- Give permissions to a node that can have them. -/
def setMode (files : FileSystem) (id : Nat) (mode : Mode) : FileSystem :=
  match files.node id with
  | .file bytes _ => files.replace id (.file bytes mode)
  | .directory parent entries _ => files.replace id (.directory parent entries mode)
  | .program name _ => files.replace id (.program name mode)
  | .link _ | .device _ => files

/-- Whether names can be entered in a directory and removed from it. -/
def canChange (files : FileSystem) (directory : Nat) : Bool :=
  (files.mode directory).canWrite && (files.mode directory).canRun

/-- The directory above a directory. -/
def parent (files : FileSystem) (id : Nat) : Nat :=
  match files.node id with
  | .directory parent _ _ => parent
  | _ => 0

/-- Give a node a name in a directory, instead of the node that has it. -/
def enter (files : FileSystem) (directory : Nat) (name : String) (id : Nat) : FileSystem :=
  match files.node directory with
  | .directory parent entries mode =>
    let kept := entries.filter fun entry => entry.1 != name
    files.replace directory (.directory parent (kept ++ [(name, id)]) mode)
  | _ => files

/-- Take a name away from a directory. -/
def remove (files : FileSystem) (directory : Nat) (name : String) : FileSystem :=
  match files.node directory with
  | .directory parent entries mode =>
    files.replace directory (.directory parent (entries.filter fun entry => entry.1 != name) mode)
  | _ => files

/-- The node of a name in a directory. -/
def child? (files : FileSystem) (directory : Nat) (name : String) : Option Nat :=
  if name = "." then some directory
  else if name = ".." then some (files.parent directory)
  else (files.entries directory).lookup name

/-- The longest name, in bytes. -/
def longestName : Nat := 255

/-- The length from which on a path is too long, in bytes. -/
def longestPath : Nat := 4096

/-- Go from a node from name to name. A link is left to `jump`, unless it stands last and links there are
    not followed. An empty name stays where it is, which has to be a directory. -/
def walkFrom (files : FileSystem) (jump : (start : Nat) → List String → Place) (follow : Bool) :
    (id : Nat) → List String → Place
  | id, [] => .node id
  | id, name :: rest =>
    if !files.isDirectory id then .unreachable .notADirectory
    else if name.isEmpty then walkFrom files jump follow id rest
    else if !(files.mode id).canRun then .unreachable .permissionDenied
    else if longestName < name.utf8ByteSize then .unreachable .nameTooLong
    else match files.child? id name with
      | none =>
        if rest.all (·.isEmpty) then .vacant id name else .unreachable .notFound
      | some next =>
        match files.node next with
        | .link target =>
          if rest.isEmpty && !follow then .node next
          else if target.isEmpty then .unreachable .notFound
          else jump (if target.startsWith "/" then 0 else id) (target.splitOn "/" ++ rest)
        | _ => walkFrom files jump follow next rest

/-- Go from a node from name to name, through up to so many links. -/
def walk (files : FileSystem) (follow : Bool) : (links : Nat) → (start : Nat) → List String → Place
  | 0 => files.walkFrom (fun _ _ => .unreachable .tooManyLinks) follow
  | links + 1 => files.walkFrom (walk files follow links) follow

/-- Where a path leads that starts at a directory. A link that stands last is followed on demand. -/
def resolveAt (files : FileSystem) (start : Nat) (path : String) (follow : Bool) : Place :=
  if path.isEmpty then .unreachable .notFound
  else if path.contains '\x00' then .unreachable .nulInPath
  else if longestPath ≤ path.utf8ByteSize then .unreachable .nameTooLong
  else files.walk follow 40 (if path.startsWith "/" then 0 else start) (path.splitOn "/")

def withoutSlashes (path : String) : String :=
  String.ofList (path.toList.reverse.dropWhile (· == '/')).reverse

/-- Whether a path asks for a file to be made under a name that only a directory can have. -/
def asksForDirectory (path : String) : Bool :=
  path.endsWith "/" &&
    match (withoutSlashes path).splitOn "/" |>.getLast? with
    | none | some "" | some "." | some ".." => false
    | some _ => true

/-- Where a path leads under which a file is to be made or written. -/
def resolveForWriting (files : FileSystem) (start : Nat) (path : String) : Place :=
  if asksForDirectory path then
    match files.resolveAt start (withoutSlashes path) false with
    | .unreachable cause => .unreachable cause
    | _ => .unreachable .isADirectory
  else
    match files.resolveAt start path true with
    | .node id => if files.isDirectory id then .unreachable .isADirectory else .node id
    | place => place

/-- The bytes that the file of a program starts with; they are no text. -/
def programImage : ByteArray :=
  ⟨#[0x7F, 0x45, 0x4C, 0x46, 0xFF]⟩

/-- What a reader finds at a node. -/
def contentOf (files : FileSystem) (id : Nat) : Content :=
  match files.node id with
  | .file bytes mode =>
    if mode.canRead && mode.canWrite then .file bytes
    else .guarded bytes mode.canRead mode.canWrite
  | .directory _ _ _ => .directory
  | .link _ => .absent
  | .device .terminal => .unreachable .noSuchDevice
  | .device _ => .file ByteArray.empty
  | .program _ mode => .guarded programImage mode.canRead mode.canWrite

def lookup (files : FileSystem) (path : String) : Content :=
  match files.resolveAt files.working path true with
  | .node id => files.contentOf id
  | .vacant directory _ =>
    if files.canChange directory then .absent else .unreachable .permissionDenied
  | .unreachable cause => .unreachable cause

/-- Make a file with a name in a directory. -/
def create (files : FileSystem) (directory : Nat) (name : String) (bytes : ByteArray) :
    Nat × FileSystem :=
  let (id, files) := files.add (.file bytes .usualFile)
  (id, files.enter directory name id)

def writeNode (files : FileSystem) (id : Nat) (bytes : ByteArray) : Except IoError FileSystem :=
  match files.node id with
  | .file _ mode =>
    if mode.canWrite then .ok (files.replace id (.file bytes mode)) else .error .permissionDenied
  | .device .full => if bytes.isEmpty then .ok files else .error .storageFull
  | .device .terminal => .error .noSuchDevice
  | .device _ => .ok files
  | .program _ mode =>
    if mode.canWrite then .ok (files.replace id (.file bytes mode)) else .error .permissionDenied
  | .directory _ _ _ => .error .isADirectory
  | .link _ => .error .permissionDenied

def write (files : FileSystem) (path : String) (bytes : ByteArray) : Except IoError FileSystem :=
  match files.resolveForWriting files.working path with
  | .node id => files.writeNode id bytes
  | .vacant directory name =>
    if files.canChange directory then .ok (files.create directory name bytes).2
    else .error .permissionDenied
  | .unreachable cause => .error cause

def readText (files : FileSystem) (path : String) : Except IoError String :=
  (files.lookup path).read

def writeText (files : FileSystem) (path text : String) : Except IoError FileSystem :=
  files.write path text.toUTF8

/-- Put a file at a path if that can be done. -/
def put (files : FileSystem) (path : String) (content : Content) : FileSystem :=
  match content with
  | .file bytes | .guarded bytes _ _ => (files.write path bytes).toOption.getD files
  | .directory | .absent | .unreachable _ => files

/-- Whether a path leads to an open file of the process itself. -/
def descriptorAt? (files : FileSystem) (path : String) : Option Nat :=
  match files.resolveAt files.working path true with
  | .node id =>
    match files.node id with
    | .device (.descriptor number) => some number
    | _ => none
  | _ => none

/-- Add a node with a name to a directory. -/
def plant (files : FileSystem) (directory : Nat) (name : String) (node : Node) :
    Nat × FileSystem :=
  let (id, files) := files.add node
  (id, files.enter directory name id)

/-- Add an empty directory with a name to a directory. -/
def makeDirectory (files : FileSystem) (directory : Nat) (name : String) (mode : Mode) :
    Nat × FileSystem :=
  files.plant directory name (.directory directory [] mode)

/-- Add nodes with names to a directory. -/
def plantAll (files : FileSystem) (directory : Nat) (nodes : List (String × Node)) : FileSystem :=
  nodes.foldl (fun files (name, node) => (files.plant directory name node).2) files

def devices : List (String × Node) :=
  [("null", .device .null), ("zero", .device .zero), ("full", .device .full),
   ("tty", .device .terminal), ("fd", .link "/proc/self/fd"), ("stdin", .link "/proc/self/fd/0"),
   ("stdout", .link "/proc/self/fd/1"), ("stderr", .link "/proc/self/fd/2")]

/-- A file system with the usual directories and some programs, and nothing in the directory where paths
    start. -/
def bare (programs : List String) : FileSystem :=
  let files : FileSystem := { nodes := #[.directory 0 [] .systemDirectory], working := 0 }
  let (usr, files) := files.makeDirectory 0 "usr" .systemDirectory
  let (bin, files) := files.makeDirectory usr "bin" .systemDirectory
  let files := files.plantAll bin (programs.map fun name => (name, .program name .systemDirectory))
  let files := files.plantAll usr
    (["games", "include", "lib", "lib64", "libexec", "local", "sbin", "share", "src"].map fun name =>
      (name, .directory usr [] .systemDirectory))
  let files := files.plantAll 0 (["bin", "lib", "lib64", "sbin"].map fun name =>
    (name, .link ("usr/" ++ name)))
  let (dev, files) := files.makeDirectory 0 "dev" .systemDirectory
  let files := files.plantAll dev devices
  let (proc, files) := files.makeDirectory 0 "proc" .systemDirectory
  let (self, files) := files.makeDirectory proc "self" .systemDirectory
  let (descriptors, files) := files.makeDirectory self "fd" .systemDirectory
  let files := files.plantAll descriptors
    ((List.range 10).map fun number => (toString number, .device (.descriptor number)))
  let files := files.plantAll 0
    (["boot", "home", "media", "mnt", "opt", "root", "run", "srv", "sys", "var"].map fun name =>
      (name, .directory 0 [] .systemDirectory))
  let (etc, files) := files.makeDirectory 0 "etc" .systemDirectory
  let files := files.plantAll etc
    [("passwd", .file "root:x:0:0:root:/root:/bin/bash\n".toUTF8 .systemFile)]
  let (tmp, files) := files.makeDirectory 0 "tmp" .usualDirectory
  let (working, files) := files.makeDirectory tmp "work" .usualDirectory
  { files with working }

/-- The same files, with some in the directory where paths start. -/
def withContents (files : FileSystem) (contents : List (String × Content)) : FileSystem :=
  contents.foldl (fun files (name, content) =>
    match content with
    | .file bytes => (files.create files.working name bytes).2
    | .guarded bytes readable writable =>
      let (id, files) := files.create files.working name bytes
      files.setMode id ⟨(if readable then 0o444 else 0) ||| (if writable then 0o222 else 0)⟩
    | .directory => (files.makeDirectory files.working name .usualDirectory).2
    | .absent | .unreachable _ => files) files

/-- The names in the directory where paths start, with what stands there. -/
def contents (files : FileSystem) : List (String × Content) :=
  (files.entries files.working).map fun (name, _) => (name, files.lookup ("./" ++ name))

end FileSystem

end AsmLayout
