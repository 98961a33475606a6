import AsmLayout.Failure
import AsmLayout.Section.Frame
import AsmLayout.Text.Inspect

/-! # Errors as they appear in diagnostics

Diagnostics show the structure of an error instead of its wording.
-/

namespace AsmLayout

def IoError.kind : IoError → String
  | notFound => "NotFound"
  | invalidFormat => "Uncategorized"
  | badDescriptor => "Uncategorized"
  | noSuchDevice => "Uncategorized"
  | permissionDenied => "PermissionDenied"
  | alreadyExists => "AlreadyExists"
  | notADirectory => "NotADirectory"
  | isADirectory => "IsADirectory"
  | invalidArgument => "InvalidInput"
  | storageFull => "StorageFull"
  | nameTooLong => "InvalidFilename"
  | notEmpty => "DirectoryNotEmpty"
  | tooManyLinks => "FilesystemLoop"
  | nulInPath => "InvalidInput"
  | invalidUtf8 => "InvalidData"

/-- The structure of a file error. -/
def IoError.inspect (error : IoError) : String :=
  match error.code? with
  | some code =>
    Text.inspectRecord "Os"
      [("code", toString code), ("kind", error.kind), ("message", Text.inspect error.wording)]
  | none =>
    Text.inspectRecord "Error"
      [("kind", error.kind), ("message", Text.inspect error.wording)]

def Error.inspect : Error → String
  | emptyInvocation => "EmptyInvocation"
  | fileRead path cause =>
    Text.inspectRecord "FileRead" [("path", Text.inspect path), ("source", cause.inspect)]
  | fileWrite path cause =>
    Text.inspectRecord "FileWrite" [("path", Text.inspect path), ("source", cause.inspect)]
  | invalidSeedHex => "InvalidSeedHex"
  | invalidSeedLength length => Text.inspectWrapped "InvalidSeedLength" (toString length)
  | notAStatement line raw =>
    Text.inspectRecord "NotAStatement" [("line", toString line), ("raw", Text.inspect raw)]
  | unknownDialect lines => Text.inspectRecord "UnknownDialect" [("lines", toString lines)]

def Failure.inspect : Failure → String
  | assemblerFailed attempts status stderr =>
    Text.inspectRecord "AssemblerFailed"
      [("attempts", toString attempts), ("status", statusText status),
       ("stderr", Text.inspect stderr)]
  | source cause => Text.inspectWrapped "Core" cause.inspect
  | paddingBoundTooLarge field limit largest =>
    Text.inspectRecord "PaddingBoundTooLarge"
      [("field", Text.inspect field), ("bound", toString limit), ("max", toString largest)]
  | invalidConfig problem => Text.inspectWrapped "InvalidConfig" problem.category

def SkipReason.inspect : SkipReason → String
  | missingLabel line => Text.inspectRecord "MissingLabel" [("line", toString line)]
  | missingPrologue function =>
    Text.inspectRecord "MissingPrologue" [("function", Text.inspect function)]
  | missingEpilogue function line =>
    Text.inspectRecord "MissingEpilogue"
      [("function", Text.inspect function), ("ret_line", toString line)]
  | unpatchedEpilogue function line =>
    Text.inspectRecord "UnpatchedEpilogue"
      [("function", Text.inspect function), ("pop_line", toString line)]
  | truncated function => Text.inspectRecord "Truncated" [("function", Text.inspect function)]

end AsmLayout
