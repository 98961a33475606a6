import AsmLayout.Error

/-! # What stands at a path

Text is read from a file if its bytes are UTF-8, and written to a file or where one can be put.
-/

namespace AsmLayout

/-- What stands at a path. -/
inductive Content where
  | file (bytes : ByteArray)
  /-- A file that cannot be read, or cannot be written, or neither. -/
  | guarded (bytes : ByteArray) (readable writable : Bool)
  | directory
  /-- Nothing, and a file can be put there. -/
  | absent
  /-- Nothing, and nothing can be put there. -/
  | unreachable (cause : IoError)

namespace Content

instance : DecidableEq Content
  | file a, file b =>
    if h : a.data = b.data then isTrue (congrArg file (ByteArray.ext h))
    else isFalse fun e => h (congrArg ByteArray.data (file.inj e))
  | guarded a readable writable, guarded b readable' writable' =>
    if h : a.data = b.data ∧ readable = readable' ∧ writable = writable' then
      isTrue (by
        obtain ⟨h, rfl, rfl⟩ := h
        rw [ByteArray.ext h])
    else isFalse fun e => h (by
      obtain ⟨rfl, rfl, rfl⟩ := guarded.inj e
      exact ⟨rfl, rfl, rfl⟩)
  | unreachable a, unreachable b =>
    if h : a = b then isTrue (congrArg unreachable h) else isFalse fun e => h (unreachable.inj e)
  | directory, directory => isTrue rfl
  | absent, absent => isTrue rfl
  | file _, guarded _ _ _ => isFalse nofun
  | guarded _ _ _, file _ => isFalse nofun
  | guarded _ _ _, directory => isFalse nofun
  | guarded _ _ _, absent => isFalse nofun
  | guarded _ _ _, unreachable _ => isFalse nofun
  | directory, guarded _ _ _ => isFalse nofun
  | absent, guarded _ _ _ => isFalse nofun
  | unreachable _, guarded _ _ _ => isFalse nofun
  | file _, directory => isFalse nofun
  | file _, absent => isFalse nofun
  | file _, unreachable _ => isFalse nofun
  | directory, file _ => isFalse nofun
  | directory, absent => isFalse nofun
  | directory, unreachable _ => isFalse nofun
  | absent, file _ => isFalse nofun
  | absent, directory => isFalse nofun
  | absent, unreachable _ => isFalse nofun
  | unreachable _, file _ => isFalse nofun
  | unreachable _, directory => isFalse nofun
  | unreachable _, absent => isFalse nofun

def ofText (text : String) : Content :=
  .file text.toUTF8

def decode (bytes : ByteArray) : Except IoError String :=
  match String.fromUTF8? bytes with
  | some text => .ok text
  | none => .error .invalidUtf8

def read : Content → Except IoError String
  | file bytes => decode bytes
  | guarded bytes readable _ => if readable then decode bytes else .error .permissionDenied
  | directory => .error .isADirectory
  | absent => .error .notFound
  | unreachable cause => .error cause

/-- What stands at a path after a text has been written there. -/
def write (text : String) : Content → Except IoError Content
  | directory => .error .isADirectory
  | unreachable cause => .error cause
  | file _ | absent => .ok (ofText text)
  | guarded _ readable writable =>
    if writable then .ok (.guarded text.toUTF8 readable writable) else .error .permissionDenied

end Content

end AsmLayout
