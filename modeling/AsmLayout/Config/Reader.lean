import AsmLayout.Config
import AsmLayout.Json.Value

/-! # Configurations in JSON

A configuration is an object in which members may be missing, or an array of its values in the order of
the fields. Members of other names are skipped.
-/

namespace AsmLayout

namespace Config

inductive Field where
  | heap
  | stack
  | bss
  | data
  | rodata
  | fileStructure
  deriving Repr, DecidableEq

/-- All fields with their names, in order. -/
def Field.table : List (String × Field) :=
  [("heap", heap), ("stack", stack), ("bss", bss), ("data", data), ("rodata", rodata),
   ("file_structure", fileStructure)]

def Field.ofName? (name : String) : Option Field :=
  table.lookup name

/-- A configuration that is being read: the fields set so far. -/
structure Draft where
  config : Config := {}
  seen : List Field := []
  deriving Repr, DecidableEq

namespace Draft

/-- Set a field that was not set before to a value of its type. -/
def set (draft : Draft) (field : Field) (value : Json.Value) : Option Draft :=
  let config := draft.config
  let update : Option Config := match field with
    | .heap => value.natural?.map fun n => { config with heap := n }
    | .stack => value.natural?.map fun n => { config with stack := n }
    | .bss => value.bool?.map fun b => { config with bss := b }
    | .data => value.bool?.map fun b => { config with data := b }
    | .rodata => value.bool?.map fun b => { config with rodata := b }
    | .fileStructure => value.bool?.map fun b => { config with fileStructure := b }
  if draft.seen.contains field then none
  else update.map fun config => { config, seen := field :: draft.seen }

end Draft

/-- A member of a configuration, from behind its key on. A repeated field is refused before its value
    is looked at. -/
def readMember (draft : Draft) (key : String) : Json.Reader Draft := fun cs =>
  match Field.ofName? key with
  | some field =>
    if draft.seen.contains field then .error .mismatched
    else do Json.scalar (draft.set field) (← Json.colon cs)
  | none => do
    let (_, rest) ← Json.value .skipped (← Json.colon cs)
    return (draft, rest)

/-- An element of a configuration that is written as an array. -/
def readElement (draft : Draft) : Json.Reader Draft := fun cs =>
  match (Field.table.map (·.2))[draft.seen.length]? with
  | some field => Json.scalar (draft.set field) cs
  | none => .error .malformed

def reader : Json.Reader Config := fun cs =>
  match Json.skipSpaces cs with
  | '[' :: rest => (Json.array readElement {} ('[' :: rest)).map fun (draft, cs) => (draft.config, cs)
  | cs => (Json.object readMember {} cs).map fun (draft, cs) => (draft.config, cs)

/-- Read a configuration from a text. -/
def ofJson (text : String) : Except Json.Problem Config :=
  Json.readAll reader text

/-- How a truth value is written. -/
def boolText (b : Bool) : String :=
  if b then "true" else "false"

/-- The members of a written configuration, without braces. -/
def jsonMembers (config : Config) : String :=
  s!"\"heap\":{config.heap},\"stack\":{config.stack},\"bss\":{boolText config.bss}," ++
  s!"\"data\":{boolText config.data},\"rodata\":{boolText config.rodata}," ++
  s!"\"file_structure\":{boolText config.fileStructure}"

def toJson (config : Config) : String :=
  "\x7b" ++ config.jsonMembers ++ "\x7d"

end Config

end AsmLayout
