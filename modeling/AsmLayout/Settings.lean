import AsmLayout.Config.Reader
import AsmLayout.Seed

/-! # Settings of a wrapped assembler

The settings hold a configuration, the assembler that is really run, and the seed. They are one flat
object: the assembler and the seed are checked as they are met, the members of the configuration once
the object is closed.
-/

namespace AsmLayout

/-- What a wrapped assembler is told. -/
structure Settings where
  config : Config := {}
  /-- The assembler that is run. -/
  assembler : String := "/usr/bin/as"
  /-- The text of a seed; without one a fresh seed is taken. -/
  seed : Option String := none
  deriving Repr, DecidableEq

namespace Settings

/-- Settings that are being read. -/
structure Draft where
  assembler : Option String := none
  seed : Option (Option String) := none
  /-- The other members so far, the last one first. -/
  others : List (String × Json.Value) := []
  deriving Repr, DecidableEq

def insideReading : Json.Reading :=
  .kept 126

/-- A member of the settings, from behind its key on. -/
def readMember (draft : Draft) (key : String) : Json.Reader Draft := fun cs =>
  if key = "used_as" then
    if draft.assembler.isSome then .error .mismatched
    else do
      let (assembler, rest) ← Json.scalar Json.Value.text? (← Json.colon cs)
      return ({ draft with assembler := some assembler }, rest)
  else if key = "seed" then
    if draft.seed.isSome then .error .mismatched
    else do
      let (seed, rest) ← Json.scalar Json.Value.optionalText? (← Json.colon cs)
      return ({ draft with seed := some seed }, rest)
  else do
    let (value, rest) ← Json.value insideReading (← Json.colon cs)
    return ({ draft with others := (key, value) :: draft.others }, rest)

/-- Set the fields of a configuration from members in order; other names are passed over. -/
def setFields (draft : Config.Draft) : List (String × Json.Value) → Option Config.Draft
  | [] => some draft
  | (key, value) :: rest =>
    match Config.Field.ofName? key with
    | some field =>
      match draft.set field value with
      | some draft => setFields draft rest
      | none => none
    | none => setFields draft rest

/-- The settings of a draft whose object is closed. -/
def ofDraft (draft : Draft) : Except Json.Problem Settings :=
  match setFields {} draft.others.reverse with
  | none => .error .mismatched
  | some fields => .ok {
      config := fields.config
      assembler := draft.assembler.getD "/usr/bin/as"
      seed := draft.seed.getD none }

def reader : Json.Reader Settings := fun cs => do
  let (draft, rest) ← Json.object readMember {} cs
  return (← ofDraft draft, rest)

/-- Read settings from a text; the padding bounds must not be too large. -/
def ofJson (text : String) : Except Failure Settings :=
  match Json.readAll reader text with
  | .error problem => .error (.invalidConfig problem)
  | .ok settings =>
    match settings.config.validate with
    | .error failure => .error failure
    | .ok () => .ok settings

/-- Read settings from a variable; one that is unset or blank leaves the defaults. -/
def ofVariable : Option String → Except Failure Settings
  | none => .ok {}
  | some text => if text.toList.all Text.isBlank then .ok {} else ofJson text

def toJson (settings : Settings) : String :=
  let seed := match settings.seed with
    | some text => Json.writeText text
    | none => "null"
  "\x7b" ++ settings.config.jsonMembers ++
    ",\"used_as\":" ++ Json.writeText settings.assembler ++ ",\"seed\":" ++ seed ++ "\x7d"

/-- The seed to use, `fresh` if none is set. -/
def chosenSeed (settings : Settings) (fresh : Seed) : Except Failure Seed :=
  match settings.seed with
  | none => .ok fresh
  | some text => match Seed.ofHex text with
    | .ok seed => .ok seed
    | .error cause => .error (.source cause)

end Settings

end AsmLayout
