/-! # Errors of sources, seeds and command lines

Each error is a cause; `Error.message` holds its wording.
-/

namespace AsmLayout

/-- Why a file could not be read, written or changed. -/
inductive IoError where
  | notFound
  | noSuchDevice
  | invalidFormat
  | badDescriptor
  | permissionDenied
  | alreadyExists
  | notADirectory
  | isADirectory
  | invalidArgument
  | storageFull
  | nameTooLong
  | notEmpty
  | tooManyLinks
  /-- A path with a NUL in it can be handed to nobody. -/
  | nulInPath
  /-- The bytes read are not UTF-8. -/
  | invalidUtf8
  deriving Repr, DecidableEq

namespace IoError

/-- The number that the system gives to an error, if it comes from the system. -/
def code? : IoError → Option Nat
  | notFound => some 2
  | noSuchDevice => some 6
  | invalidFormat => some 8
  | badDescriptor => some 9
  | permissionDenied => some 13
  | alreadyExists => some 17
  | notADirectory => some 20
  | isADirectory => some 21
  | invalidArgument => some 22
  | storageFull => some 28
  | nameTooLong => some 36
  | notEmpty => some 39
  | tooManyLinks => some 40
  | nulInPath => none
  | invalidUtf8 => none

/-- What an error says, without its number. -/
def wording : IoError → String
  | notFound => "No such file or directory"
  | noSuchDevice => "No such device or address"
  | invalidFormat => "Exec format error"
  | badDescriptor => "Bad file descriptor"
  | permissionDenied => "Permission denied"
  | alreadyExists => "File exists"
  | notADirectory => "Not a directory"
  | isADirectory => "Is a directory"
  | invalidArgument => "Invalid argument"
  | storageFull => "No space left on device"
  | nameTooLong => "File name too long"
  | notEmpty => "Directory not empty"
  | tooManyLinks => "Too many levels of symbolic links"
  | nulInPath => "file name contained an unexpected NUL byte"
  | invalidUtf8 => "stream did not contain valid UTF-8"

/-- The wording of an error, with its number. -/
def message (error : IoError) : String :=
  match error.code? with
  | some code => s!"{error.wording} (os error {code})"
  | none => error.wording

end IoError

/-- What can be wrong with a source, a seed or a command line. -/
inductive Error where
  /-- An assembler command line without a source file. -/
  | emptyInvocation
  | fileRead (path : String) (cause : IoError)
  | fileWrite (path : String) (cause : IoError)
  | invalidSeedHex
  /-- The length found, in bytes of UTF-8 and without the marker. -/
  | invalidSeedLength (length : Nat)
  | notAStatement (line : Nat) (raw : String)
  /-- No marker of any dialect in so many lines. -/
  | unknownDialect (lines : Nat)
  deriving Repr, DecidableEq

def Error.message : Error → String
  | emptyInvocation => "assembler invocation is empty"
  | fileRead path cause => s!"could not read file '{path}': {cause.message}"
  | fileWrite path cause => s!"could not write file '{path}': {cause.message}"
  | invalidSeedHex => "invalid hexadecimal in seed"
  | invalidSeedLength length => s!"invalid seed length: expected 64 hex chars, got {length}"
  | notAStatement line raw => s!"line {line} is not a statement ⇒ `{raw}`"
  | unknownDialect lines =>
    s!"unknown assembler dialect ({lines} lines, no block marker or cfi directive)"

end AsmLayout
