import AsmLayout.Host.Shell.Arithmetic
import AsmLayout.Host.Shell.Pattern
import AsmLayout.Host.Shell.Running

/-! # What words stand for

The words of a command are expanded when it runs: parameters, the output of commands and the values of
expressions are put in, what was put in is split into fields, and fields that are patterns become the
paths they fit.
-/

namespace AsmLayout.Host

open Text (Octets)

def settingLetters : List Char :=
  ['u', 'b', 'a', 'C', 'E', 'V', 'v', 'x', 's', 'n', 'm', 'i', 'I', 'f', 'e']

/-- The text that a parameter stands for. -/
def Session.parameter? (s : Session) (name : Octets) : Option Octets :=
  match name with
  | ['#'] => some (Text.decimal s.parameters.length)
  | ['?'] => some (Text.decimal s.status)
  | ['$'] => some (Text.decimal s.mainProcess)
  | ['!'] => s.background?.map Text.decimal
  | ['-'] => some (settingLetters.filter s.settings.contains)
  | c :: rest =>
    if (digit? c).isSome then
      match (String.ofList (c :: rest)).toNat? with
      | some 0 => some s.name
      | some n => s.parameters[n - 1]?
      | none => none
    else s.value? name
  | [] => none

/-- The characters where fields are split. -/
def separators : Shell Octets :=
  return (← value? "IFS").getD [' ', '\t', '\n']

def putIn (quoted : Bool) (text : Octets) : List Glyph :=
  if quoted then .quotes :: text.map .quoted else text.map .loose

/-- Lists with something between them. -/
def joinGlyphs (between : List Glyph) (parts : List (List Glyph)) : List Glyph :=
  between.intercalate parts

/-- Glyphs of all parameters. In quotes `$@` keeps them apart and `$*` joins them. -/
def putInAll (splitting quoted : Bool) (name : Char) (texts : List Octets) : Shell (List Glyph) := do
  let first := (← separators).head?
  let parts := texts.map (putIn quoted)
  if splitting && (!quoted || name = '@') then return joinGlyphs [.cut] parts
  let between := if name = '@' then some ' ' else first
  return joinGlyphs (putIn quoted between.toList) parts

/-- Split glyphs into fields. `current` is the field so far, its last glyph first; `spaced` tells that
    blanks have just ended a field, so that one more separator only widens the gap. -/
def splitFrom (marks : Octets) :
    (spaced : Bool) → (current : List Glyph) → List Glyph → List (List Glyph)
  | _, current, [] => if current.isEmpty then [] else [current.reverse]
  | _, current, .cut :: rest =>
    if current.isEmpty then splitFrom marks false [] rest
    else current.reverse :: splitFrom marks false [] rest
  | spaced, current, .loose c :: rest =>
    if !marks.contains c then splitFrom marks false (.loose c :: current) rest
    else if c = ' ' || c = '\t' || c = '\n' then
      if current.isEmpty then splitFrom marks spaced [] rest
      else current.reverse :: splitFrom marks true [] rest
    else if spaced && current.isEmpty then splitFrom marks false [] rest
    else current.reverse :: splitFrom marks false [] rest
  | _, current, glyph :: rest => splitFrom marks false (glyph :: current) rest

/-- A value of a variable as a number. -/
def numberOf (text : Octets) : Shell Int :=
  match Arithmetic.integer? text with
  | some n => return n
  | none => giveUp (ascii "Illegal number: " ++ text)

def arithmeticText (expression : Octets) : Shell Octets := do
  let mistake {α : Type} (message : String) : Shell α :=
    giveUp (ascii ("arithmetic expression: " ++ message ++ ": \"") ++ expression ++ ['"'])
  match Arithmetic.read expression with
  | .error message => mistake message
  | .ok tree =>
    let scope : Arithmetic.Variables Shell :=
      { value := fun name => do
          match (← get).value? name with
          | some text => numberOf text
          | none => return 0
        set := fun name n => assign name (Text.signedDecimal n)
        divisionByZero := mistake "division by zero" }
    return Text.signedDecimal (← Arithmetic.evaluate scope tree)

/-- A text without the line feeds at its end. -/
def withoutNewlines (text : Octets) : Octets :=
  (text.reverse.dropWhile (· == '\n')).reverse

def outputOf (e : Evaluator) (command : Command) : Shell Octets := do
  let pipe ← onProcess (addStream (.pipe ByteArray.empty 0))
  let ending ← inSubshell e do
    onProcess (connect 1 pipe)
    e.run false command
  tellEnding ending
  modify fun s => { s with substituted := ending.status }
  match ← onProcess (takeBytes pipe none) with
  | .ok bytes => return withoutNewlines ((Text.octetsOfArray bytes).filter (· != '\x00'))
  | .error _ => return []

/-- What is put in for a parameter: one text, all parameters, or nothing because it is not set. -/
inductive Found where
  | unset
  | text (text : Octets)
  | all (name : Char) (texts : List Octets)

def findParameter (name : Octets) : Shell Found := do
  let s ← get
  match name with
  | ['@'] => return if s.parameters.isEmpty then .unset else .all '@' s.parameters
  | ['*'] => return if s.parameters.isEmpty then .unset else .all '*' s.parameters
  | name => return match s.parameter? name with
    | some text => .text text
    | none => .unset

/-- Whether a parameter counts as set. -/
def Found.isSet (orEmpty : Bool) : Found → Bool
  | .unset => false
  | .text found => !(orEmpty && found.isEmpty)
  | .all _ texts => !(orEmpty && texts.all (·.isEmpty))

/-- Glyphs of a part of an operand that stands outside quotes: they are put in. -/
def loosen (glyphs : List Glyph) : List Glyph :=
  glyphs.map fun
    | .plain c => .loose c
    | glyph => glyph

/-- What is told of a parameter that is not set. -/
def notSet {α : Type} (name : Octets) (orEmpty : Bool) : Shell α :=
  giveUp (name ++ ascii (if orEmpty then ": parameter not set or null" else ": parameter not set"))

def parameterGlyphs (splitting quoted : Bool) (name : Octets) (form : Form)
    (operand : Shell (List Glyph)) : Shell (List Glyph) := do
  let found ← findParameter name
  let whole := name = ['@'] || name = ['*']
  let isSet : Bool := match found with
    | .unset => false
    | _ => true
  let strict : Bool := match form with
    | .plain | .length | .trimmed _ _ => true
    | _ => false
  if strict && !isSet && !whole && (← hasSetting 'u') then notSet name false
  let itself : Shell (List Glyph) :=
    match found with
    | .unset => return if quoted && !whole then [.quotes] else []
    | .text text => return putIn quoted text
    | .all name texts => putInAll splitting quoted name texts
  let inner : Shell (List Glyph) := if quoted then operand else loosen <$> operand
  match form with
  | .plain => itself
  | .length =>
    let length := match found with
      | .unset => 0
      | .text text => text.length
      | .all _ texts => texts.length
    return putIn quoted (Text.decimal length)
  | .fallback orEmpty => if found.isSet orEmpty then itself else inner
  | .instead orEmpty => if found.isSet orEmpty then inner else return []
  | .assigned orEmpty =>
    if found.isSet orEmpty then itself
    else
      if !isName name then giveUp (name ++ ascii ": bad variable name")
      let text := glyphText (← operand)
      assign name text
      return putIn quoted text
  | .required orEmpty =>
    if found.isSet orEmpty then itself
    else
      let message := glyphText (← operand)
      if message.isEmpty then notSet name orEmpty
      giveUp (name ++ ascii ": " ++ message)
  | .trimmed behind longest =>
    let pattern := patternOf (← operand)
    let trim := if behind then trimBack pattern longest else trimFront pattern longest
    match found with
    | .unset => return if quoted && !whole then [.quotes] else []
    | .text text => return putIn quoted (trim text)
    | .all name texts => putInAll splitting quoted name (texts.map trim)
  | .senseless => giveUp (ascii "Bad substitution")

/-- Glyphs of a word. `splitting` tells that it will be split into fields. -/
def glyphsOf (e : Evaluator) (splitting : Bool) : List Piece → Shell (List Glyph)
  | [] => return []
  | .text text quoted :: rest => do
    let all : List Piece := .text text quoted :: rest
    let lone : Bool := match all with
      | [.text [] true, .parameter ['@'] .plain [] true] => true
      | .text [] true :: .parameter ['@'] .plain [] true :: .parameter _ _ _ false :: _ => true
      | .text [] true :: .parameter ['@'] .plain [] true :: .text _ _ :: _ => true
      | _ => false
    let here := if lone then [] else if quoted then .quotes :: text.map .quoted
      else text.map .plain
    return here ++ (← glyphsOf e splitting rest)
  | .parameter name form operand quoted :: rest => do
    let here ← parameterGlyphs splitting quoted name form (glyphsOf e splitting operand)
    return here ++ (← glyphsOf e splitting rest)
  | .output command quoted :: rest => do
    let here := putIn quoted (← outputOf e command)
    return here ++ (← glyphsOf e splitting rest)
  | .arithmetic expression quoted :: rest => do
    let here := putIn quoted (← arithmeticText (glyphText (← glyphsOf e false expression)))
    return here ++ (← glyphsOf e splitting rest)

/-- The home directory of a user, or of the one who runs the shell. -/
def homeOf (user : Octets) : Shell (Option Octets) := do
  if user.isEmpty then value? "HOME"
  else return if user == ascii "root" then some (ascii "/root") else none

/-- A text that starts with a tilde, with a home directory in its place. `more` tells that something stands
    behind the text. -/
def expandTilde (ends : Char → Bool) (more : Bool) (text : Octets) : Shell (List Piece) := do
  match text with
  | '~' :: rest =>
    let user := rest.takeWhile fun c => !ends c
    let behind := rest.drop user.length
    if behind.isEmpty && more then return [.text text false]
    match ← homeOf user with
    | some home => return [.text home true, .text behind false]
    | none => return [.text text false]
  | _ => return [.text text false]

/-- Put home directories in for tildes at the front of a word. -/
def expandTildes : List Piece → Shell (List Piece)
  | .text text false :: rest => return (← expandTilde (· == '/') (!rest.isEmpty) text) ++ rest
  | pieces => return pieces

/-- Put home directories in for tildes in a value: they may also stand behind a colon. -/
def expandValueTildes (pieces : List Piece) : Shell (List Piece) := do
  let tilde := expandTilde fun c => c == '/' || c == ':'
  match pieces with
  | .text text false :: rest =>
    let parts := Text.splitAtChar ':' text
    let mut found : List Piece := []
    for (part, n) in parts.zipIdx do
      let last := n + 1 == parts.length
      if n != 0 then found := found ++ [.text [':'] false]
      found := found ++ (← tilde (last && !rest.isEmpty) part)
    return found ++ rest
  | pieces => return pieces

def textOfWord (e : Evaluator) (word : List Piece) : Shell Octets :=
  return glyphText (← glyphsOf e false (← expandTildes word))

/-- The value of a variable that is set. -/
def textOfValue (e : Evaluator) (value : List Piece) : Shell Octets :=
  return glyphText (← glyphsOf e false (← expandValueTildes value))

def patternOfWord (e : Evaluator) (word : List Piece) : Shell (List PatternPart) :=
  return patternOf (← glyphsOf e false (← expandTildes word))

/-- The names between the slashes of a pattern, each with the slashes behind it. -/
def pathParts : List Glyph → List (List Glyph × Octets)
  | [] => []
  | glyph :: rest =>
    match glyph.char?, pathParts rest with
    | some '/', ([], slashes) :: parts => ([], '/' :: slashes) :: parts
    | some '/', parts => ([], ['/']) :: parts
    | _, ([], slashes) :: parts => ([glyph], slashes) :: parts
    | _, (name, slashes) :: parts => (glyph :: name, slashes) :: parts
    | _, [] => [([glyph], [])]

/-- Whether one text comes before another one or is the same, by the numbers of their bytes. -/
def precedes : Octets → Octets → Bool
  | [], _ => true
  | _ :: _, [] => false
  | a :: as, b :: bs => if a = b then precedes as bs else a < b

/-- The paths that fit a pattern, given in parts, behind a path. -/
def pathsFrom (files : FileSystem) (working : Nat) :
    (path : Octets) → List (List Glyph × Octets) → List Octets
  | path, [] =>
    match files.resolveAt working (Text.textOf path) false with
    | .node _ => [path]
    | _ => []
  | path, (name, slashes) :: parts =>
    let pattern := patternOf name
    if pattern.any (·.isWild) then
      let directory := if path.isEmpty then ['.'] else path
      let names : List Octets := match files.resolveAt working (Text.textOf directory) true with
        | .node id =>
          if files.isDirectory id && (files.mode id).canRead then
            [['.'], ['.', '.']] ++ (files.entries id).map fun entry => Text.octets entry.1
          else []
        | _ => []
      let dotted := (name.filterMap Glyph.char?).head? = some '.'
      let fitting := names.filter fun text =>
        (dotted || text.head? != some '.') && fitsWhole pattern text
      if parts.isEmpty && slashes.isEmpty then fitting.map fun text => path ++ text
      else fitting.flatMap fun text => pathsFrom files working (path ++ text ++ slashes) parts
    else pathsFrom files working (path ++ glyphText name ++ slashes) parts

/-- A field, or the paths that it fits. -/
def pathsOf (field : List Glyph) : Shell (List Octets) := do
  let text := glyphText field
  if (← hasSetting 'f') || !(patternOf field).any (·.isWild) then return [text]
  let process := (← get).process
  let visible := field.filter fun glyph => glyph.char?.isSome
  let found := pathsFrom process.world.files process.working [] (pathParts visible)
  return if found.isEmpty then [text] else found.mergeSort precedes

def fieldsOf (e : Evaluator) (word : List Piece) : Shell (List Octets) := do
  let glyphs ← glyphsOf e true (← expandTildes word)
  let fields := splitFrom (← separators) false [] glyphs
  return (← fields.mapM pathsOf).flatten

end AsmLayout.Host
