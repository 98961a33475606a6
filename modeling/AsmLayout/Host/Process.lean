import AsmLayout.File.System

/-! # Processes on files held in memory

An assembler can be rehearsed without starting a process of the system: a process is a state that programs
act on. It has open files, a directory and an environment of its own, and shares with all others the world,
which holds the files, the streams that lead to them, and the signals on their way.
-/

namespace AsmLayout.Host

open Text (Octets)

/-- Where bytes come from or go to. -/
inductive Stream where
  /-- A file from an offset on, or always its end. -/
  | file (node offset : Nat) (appending : Bool)
  | device (device : Device)
  /-- What has been written and how much of it has been read. -/
  | pipe (bytes : ByteArray) (taken : Nat)

structure World where
  files : FileSystem
  streams : Array Stream := #[]
  /-- The number of the youngest process. -/
  youngest : Nat
  /-- Signals on their way: to which process, and which one. -/
  signals : List (Nat × Nat) := []

structure Process where
  world : World
  id : Nat
  parent : Nat
  /-- The processes that wait for this one. -/
  waiting : List Nat := []
  /-- The numbers of open files with their streams. -/
  descriptors : List (Nat × Nat) := []
  /-- The directory where paths start. -/
  working : Nat
  environment : List (Octets × Octets) := []
  /-- Signals that do nothing. -/
  ignored : List Nat := []
  /-- Permissions that files made by it do not get. -/
  mask : Nat := 0o022
  /-- Why something could not be printed, if that has happened. -/
  unprinted? : Option IoError := none

abbrev Act := StateM Process

inductive Ending where
  | exited (code : Nat)
  | killed (signal : Nat)
  deriving Repr, DecidableEq

/-- How an ending is told to the process that waits for it. -/
def Ending.status : Ending → Nat
  | exited code => code
  | killed signal => 128 + signal

/-- A program: it is called by some name, with arguments. -/
abbrev Program := (name : Octets) → (arguments : List Octets) → Act Ending

inductive Opening where
  | reading
  /-- What is there is dropped. -/
  | writing
  | appending
  /-- What is there is kept. -/
  | both
  deriving Repr, DecidableEq

def files : Act FileSystem :=
  return (← get).world.files

def setFiles (files : FileSystem) : Act Unit :=
  modify fun p => { p with world := { p.world with files } }

def resolve (path : Octets) (follow : Bool := true) : Act Place :=
  return (← files).resolveAt (← get).working (Text.textOf path) follow

def nodeAt (path : Octets) (follow : Bool := true) : Act (Except IoError Nat) := do
  match ← resolve path follow with
  | .node id => return .ok id
  | .vacant _ _ => return .error .notFound
  | .unreachable cause => return .error cause

/-- The stream of an open file. -/
def streamOf? (descriptor : Nat) : Act (Option Nat) :=
  return (← get).descriptors.lookup descriptor

def addStream (stream : Stream) : Act Nat :=
  modifyGet fun p =>
    (p.world.streams.size,
      { p with world := { p.world with streams := p.world.streams.push stream } })

def setStream (index : Nat) (stream : Stream) : Act Unit :=
  modify fun p =>
    { p with world := { p.world with streams := p.world.streams.setIfInBounds index stream } }

/-- Close an open file. -/
def close (descriptor : Nat) : Act Unit :=
  modify fun p => { p with descriptors := p.descriptors.filter fun entry => entry.1 != descriptor }

/-- Let an open file lead to a stream. -/
def connect (descriptor stream : Nat) : Act Unit :=
  modify fun p =>
    { p with descriptors := (descriptor, stream) ::
        p.descriptors.filter fun entry => entry.1 != descriptor }

def mayOpen (mode : Mode) (opening : Opening) : Bool :=
  match opening with
  | .reading => mode.canRead
  | .writing | .appending => mode.canWrite
  | .both => mode.canRead && mode.canWrite

/-- Open what stands at a node that is no open file. -/
def openStored (id : Nat) (opening : Opening) : Act (Except IoError Nat) := do
  let found ← files
  if !mayOpen (found.mode id) opening then return .error .permissionDenied
  match found.node id with
  | .device .terminal => return .error .noSuchDevice
  | .device device => return .ok (← addStream (.device device))
  | .file _ mode =>
    if opening = .writing then setFiles (found.replace id (.file ByteArray.empty mode))
    return .ok (← addStream (.file id 0 (opening = .appending)))
  | .program _ mode =>
    match opening with
    | .reading => pure ()
    | .writing => setFiles (found.replace id (.file ByteArray.empty mode))
    | .appending | .both => setFiles (found.replace id (.file FileSystem.programImage mode))
    return .ok (← addStream (.file id 0 (opening = .appending)))
  | _ =>
    if opening = .reading then return .ok (← addStream (.file id 0 false))
    return .error .permissionDenied

/-- Open what stands at a node. An open file that is stored somewhere is opened there once more. -/
def openNode (id : Nat) (opening : Opening) : Act (Except IoError Nat) := do
  match (← files).node id with
  | .device (.descriptor number) =>
    match ← streamOf? number with
    | some stream =>
      match (← get).world.streams[stream]? with
      | some (.file node _ _) => openStored node opening
      | _ => return .ok stream
    | none => return .error .notFound
  | _ => openStored id opening

/-- Open the file at a path; gives its stream. -/
def openPath (path : Octets) (opening : Opening) : Act (Except IoError Nat) := do
  if opening = .reading then
    match ← nodeAt path with
    | .ok id => openNode id opening
    | .error cause => return .error cause
  else
    let found ← files
    match found.resolveForWriting (← get).working (Text.textOf path) with
    | .node id => openNode id opening
    | .vacant directory name =>
      if !found.canChange directory then return .error .permissionDenied
      let (id, found) := found.create directory name ByteArray.empty
      setFiles (found.setMode id (Mode.masked ⟨0o666⟩ (← get).mask))
      return .ok (← addStream (.file id 0 (opening = .appending)))
    | .unreachable cause => return .error cause

/-- How much is read at once from what has no end. -/
def endlessChunk : Nat := 1048576

/-- Take up to so many bytes, or all there are, from a stream. -/
def takeBytes (index : Nat) (limit : Option Nat) : Act (Except IoError ByteArray) := do
  let p ← get
  match p.world.streams[index]? with
  | none => return .error .badDescriptor
  | some (.pipe bytes taken) =>
    let stop := match limit with
      | some n => min bytes.size (taken + n)
      | none => bytes.size
    setStream index (.pipe bytes stop)
    return .ok (bytes.extract taken stop)
  | some (.device .null) | some (.device (.descriptor _)) => return .ok ByteArray.empty
  | some (.device .terminal) => return .error .noSuchDevice
  | some (.device .zero) | some (.device .full) =>
    return .ok ⟨(List.replicate (limit.getD endlessChunk) (0 : UInt8)).toArray⟩
  | some (.file node offset appending) =>
    match p.world.files.contentOf node with
    | .file bytes | .guarded bytes _ _ =>
      let stop := match limit with
        | some n => min bytes.size (offset + n)
        | none => bytes.size
      setStream index (.file node (max offset stop) appending)
      return .ok (bytes.extract offset stop)
    | .directory => return .error .isADirectory
    | .absent => return .error .notFound
    | .unreachable cause => return .error cause

/-- All that is left to read of an open file. -/
def readAll (descriptor : Nat) : Act (Except IoError Octets) := do
  match ← streamOf? descriptor with
  | none => return .error .badDescriptor
  | some index => return (← takeBytes index none).map Text.octetsOfArray

/-- The next byte of an open file, if there is one. -/
def readByte? (descriptor : Nat) : Act (Option Char) := do
  match ← streamOf? descriptor with
  | none => return none
  | some index =>
    match ← takeBytes index (some 1) with
    | .ok bytes => return bytes.data[0]?.map Text.octet
    | .error _ => return none

/-- The bytes of the file at a path. -/
def readFile (path : Octets) : Act (Except IoError Octets) := do
  match ← openPath path .reading with
  | .ok stream => return (← takeBytes stream none).map Text.octetsOfArray
  | .error cause => return .error cause

/-- Bytes with others written over them from an offset on. -/
def overwrite (old : ByteArray) (offset : Nat) (new : ByteArray) : ByteArray :=
  let front := old.extract 0 offset
  let gap : ByteArray := ⟨(List.replicate (offset - old.size) (0 : UInt8)).toArray⟩
  front ++ gap ++ new ++ old.extract (offset + new.size) old.size

def writeStream (index : Nat) (new : ByteArray) : Act (Except IoError Unit) := do
  let p ← get
  match p.world.streams[index]? with
  | none => return .error .badDescriptor
  | some (.pipe bytes taken) =>
    setStream index (.pipe (bytes ++ new) taken)
    return .ok ()
  | some (.device .full) =>
    if new.isEmpty then return .ok () else return .error .storageFull
  | some (.device _) => return .ok ()
  | some (.file node offset appending) =>
    match p.world.files.node node with
    | .file bytes mode =>
      let start := if appending then bytes.size else offset
      setFiles (p.world.files.replace node (.file (overwrite bytes start new) mode))
      setStream index (.file node (start + new.size) appending)
      return .ok ()
    | _ => return .error .badDescriptor

/-- Write bytes to an open file. -/
def write (descriptor : Nat) (bytes : Octets) : Act (Except IoError Unit) := do
  match ← streamOf? descriptor with
  | none => return .error .badDescriptor
  | some index => writeStream index (Text.arrayOf bytes)

/-- Write bytes to the standard output. It is kept in mind if that cannot be done. -/
def print (bytes : Octets) : Act Unit := do
  if bytes.isEmpty then return
  match ← write 1 bytes with
  | .ok () => return
  | .error cause => modify fun p => { p with unprinted? := p.unprinted?.or (some cause) }

/-- Write a line to the standard error, whether that can be done or not. -/
def complain (message : Octets) : Act Unit :=
  discard (write 2 (message ++ ['\n']))

/-- The value of a variable of the environment. -/
def environment? (name : String) : Act (Option Octets) :=
  return (← get).environment.lookup name.toList

/-- Act as a new process: what it does to the world stays, what it does to itself does not. -/
def inChild {α : Type} (act : Act α) : Act α := fun p =>
  let number := p.world.youngest + 1
  let world := { p.world with youngest := number }
  let (a, child) := act { p with world, id := number, parent := p.id, waiting := p.id :: p.waiting }
  (a, { p with world := child.world })

/-- Send a signal to a process; gives whether there is such a process. -/
def sendSignal (target signal : Nat) : Act Bool := do
  let p ← get
  if target = p.id || p.waiting.contains target then
    if signal != 0 then
      set { p with world := { p.world with signals := p.world.signals ++ [(target, signal)] } }
    return true
  return signal = 0 && (target = 1 || target = p.parent)

def firstProcess : Nat := 4096

/-- A process that is about to run, with nothing to read; its output and its complaints are kept apart. -/
def start (files : FileSystem) (environment : List (Octets × Octets)) : Process :=
  { world :=
      { files, youngest := firstProcess
        streams := #[.device .null, .pipe ByteArray.empty 0, .pipe ByteArray.empty 0] }
    id := firstProcess, parent := 1, working := files.working, environment
    descriptors := [(0, 0), (1, 1), (2, 2)] }

/-- What has been written to a stream and not been read. -/
def Process.unread (p : Process) (index : Nat) : ByteArray :=
  match p.world.streams[index]? with
  | some (.pipe bytes taken) => bytes.extract taken bytes.size
  | _ => ByteArray.empty

end AsmLayout.Host
