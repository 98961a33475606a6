import AsmLayout.Host.Shell.Builtin.Options
import AsmLayout.Host.Shell.Expansion

/-! # Commands on variables and parameters -/

namespace AsmLayout.Host

open Text (Octets)

/-- The name in front of an equals sign and the value behind it, if there is one. -/
def nameAndValue (word : Octets) : Octets × Option Octets :=
  match word.dropWhile (· != '=') with
  | _ :: value => (word.takeWhile (· != '='), some value)
  | [] => (word, none)

/-- Make sure that a word is a name. -/
def requireName (name : Octets) : Shell Unit :=
  if isName name then return () else giveUp (name ++ ascii ": bad variable name")

/-- The bindings in the order of their names. -/
def sortedBindings : Shell (List (Octets × Binding)) :=
  return (← get).bindings.mergeSort fun a b => precedes a.1 b.1

/-- Show variables, each as a command that sets it. -/
def showBindings (command : Octets) (chosen : Binding → Bool) : Shell Unit := do
  for (name, binding) in ← sortedBindings do
    if chosen binding then
      match binding.value? with
      | some value => sayLine (command ++ name ++ '=' :: quoteText value)
      | none => if !command.isEmpty then sayLine (command ++ name)

/-- Mark variables, and set those that come with a value. -/
def markVariables (command : String) (chosen : Binding → Bool) (mark : Binding → Binding)
    (words : List Octets) : Shell Nat := do
  let (options, names) ← optionsOf "p" words
  if names.isEmpty || !options.isEmpty then
    showBindings (ascii command ++ [' ']) chosen
  else
    for word in names do
      let (name, value) := nameAndValue word
      requireName name
      match value with
      | some value => assign name value
      | none => pure ()
      bind name (some (mark (← bindingOf name)))
  return 0

def exportVariables (words : List Octets) : Shell Nat :=
  markVariables "export" (·.exported) (fun binding => { binding with exported := true }) words

/-- Make variables read only. -/
def protectVariables (words : List Octets) : Shell Nat :=
  markVariables "readonly" (·.readOnly) (fun binding => { binding with readOnly := true }) words

/-- Forget variables or functions. -/
def forget (words : List Octets) : Shell Nat := do
  let (options, names) ← optionsOf "vf" words
  let functions := options.getLast?.map (·.1) = some 'f'
  for name in names do
    if functions then
      modify fun s => { s with functions := s.functions.filter fun entry => entry.1 != name }
    else
      requireName name
      if (← bindingOf name).readOnly then giveUp (name ++ ascii ": is read only")
      bind name none
  return 0

/-- Make variables local to the running function. -/
def makeLocal (words : List Octets) : Shell Nat := do
  if (← get).hidden.isEmpty then giveUp (ascii "not in a function")
  for word in words do
    let (name, value) := nameAndValue word
    requireName name
    hide name
    match value with
    | some value => assign name value
    | none => pure ()
  return 0

/-- The long names of the settings. Those without a letter have a blank. -/
def settingNames : List (String × Char) :=
  [("errexit", 'e'), ("noglob", 'f'), ("ignoreeof", 'I'), ("interactive", 'i'), ("monitor", 'm'),
   ("noexec", 'n'), ("stdin", 's'), ("xtrace", 'x'), ("verbose", 'v'), ("vi", 'V'), ("emacs", 'E'),
   ("noclobber", 'C'), ("allexport", 'a'), ("notify", 'b'), ("nounset", 'u'), ("privileged", 'p'),
   ("nolog", ' '), ("debug", ' ')]

/-- Turn a setting on or off. -/
def turn (on : Bool) (letter : Char) : Shell Unit :=
  modify fun s =>
    let others := s.settings.filter (· != letter)
    { s with settings := if on then letter :: others else others }

def turnLetter (on : Bool) (letter : Char) : Shell Unit := do
  if letter != ' ' && (settingNames.map (·.2)).contains letter then turn on letter
  else giveUp (ascii "Illegal option -" ++ [letter])

/-- Turn the setting of a long name on or off. -/
def turnName (on : Bool) (name : Octets) : Shell Unit := do
  match settingNames.lookup (String.ofList name) with
  | some letter => turn on letter
  | none => giveUp (ascii "Illegal option -o " ++ name)

/-- Show all settings, as a table or as commands that make them. -/
def showSettings (table : Bool) : Shell Unit := do
  if table then sayLine (ascii "Current option settings")
  let on := (← get).settings
  for (name, letter) in settingNames do
    let isOn := letter != ' ' && on.contains letter
    if table then
      let blanks := List.replicate (16 - name.length) ' '
      sayLine (ascii name ++ blanks ++ ascii (if isOn then "on" else "off"))
    else sayLine (ascii (if isOn then "set -o " else "set +o ") ++ ascii name)

structure SettingWords where
  /-- The words that are left. -/
  left : List Octets
  /-- Whether the end of the settings was marked. -/
  marked : Bool := false
  /-- Whether the text of a script is expected. -/
  script : Bool := false
  deriving Repr, DecidableEq

/-- Make the settings of the letters of a word; an `o` takes its name from the words behind. -/
def turnLetters (starting on : Bool) :
    (letters : Octets) → (words : List Octets) → Shell (Bool × List Octets)
  | [], words => return (false, words)
  | 'o' :: letters, words => do
    match words with
    | [] =>
      showSettings on
      turnLetters starting on letters []
    | name :: words =>
      turnName on name
      turnLetters starting on letters words
  | c :: letters, words => do
    if starting && c = 'c' then
      let (_, left) ← turnLetters starting on letters words
      return (true, left)
    turnLetter on c
    turnLetters starting on letters words

def makeSettings (starting : Bool) : (fuel : Nat) → List Octets → Shell SettingWords
  | fuel + 1, (sign :: letters) :: words => do
    if sign = '-' && letters.isEmpty then
      if !starting then
        turn false 'x'
        turn false 'v'
      return { left := words }
    else if sign = '-' && letters == ['-'] then return { left := words, marked := true }
    else if sign = '-' || sign = '+' then
      let (script, left) ← turnLetters starting (sign = '-') letters words
      let found ← makeSettings starting fuel left
      return { found with script := found.script || script }
    else return { left := (sign :: letters) :: words }
  | _, words => return { left := words }

/-- Make settings and set the parameters. -/
def change (words : List Octets) : Shell Nat := do
  if words.isEmpty then showBindings [] fun _ => true
  else
    let found ← makeSettings false (words.length + 1) words
    if found.marked || !found.left.isEmpty then
      modify fun s => { s with parameters := found.left, position := {} }
  return 0

/-- Drop the first parameters. -/
def shift (words : List Octets) : Shell Nat := do
  let n ← match words with
    | [] => pure 1
    | word :: _ => naturalOf word
  let parameters := (← get).parameters
  if parameters.length < n then giveUp (ascii "can't shift that many")
  modify fun s => { s with parameters := parameters.drop n, position := {} }
  return 0

/-- Whether a glyph separates fields. -/
def isMark (marks : Octets) : Glyph → Bool
  | .loose c => marks.contains c
  | _ => false

/-- Whether a glyph is a blank that separates fields. -/
def isBlankMark (marks : Octets) : Glyph → Bool
  | .loose c => marks.contains c && (c = ' ' || c = '\t' || c = '\n')
  | _ => false

/-- The last of the fields that are asked for: all that is left but the blanks at its end, and without
    a separator at its end if there is no other one. -/
def lastField (marks : Octets) (glyphs : List Glyph) : List Glyph :=
  let trim (glyphs : List Glyph) := (glyphs.reverse.dropWhile (isBlankMark marks)).reverse
  let whole := trim (glyphs.dropWhile (isBlankMark marks))
  match whole.getLast? with
  | some glyph =>
    let single := trim whole.dropLast
    if isMark marks glyph && !single.any (isMark marks) then single else whole
  | none => []

/-- The fields for so many names. -/
def fieldsFor (marks : Octets) : (names : Nat) → List Glyph → List (List Glyph)
  | 0, _ => []
  | 1, glyphs => [lastField marks glyphs]
  | n + 1, glyphs =>
    let front := glyphs.dropWhile (isBlankMark marks)
    let field := front.takeWhile fun glyph => !isMark marks glyph
    let behind := (front.drop field.length).dropWhile (isBlankMark marks)
    let rest := match behind with
      | glyph :: rest => if isMark marks glyph then rest else behind
      | [] => []
    field :: fieldsFor marks n rest

/-- Read a line, with the backslashes in it taken as told; gives whether it has an end. -/
def readGlyphs (raw : Bool) : (fuel : Nat) → (escaped : Bool) → Act (List Glyph × Bool)
  | 0, _ => return ([], false)
  | fuel + 1, escaped => do
    match ← readByte? 0 with
    | none => return ([], false)
    | some '\x00' => readGlyphs raw fuel escaped
    | some c =>
      if escaped then
        let (rest, ended) ← readGlyphs raw fuel false
        return (if c = '\n' then rest else .quoted c :: rest, ended)
      else if c = '\\' && !raw then readGlyphs raw fuel true
      else if c = '\n' then return ([], true)
      else
        let (rest, ended) ← readGlyphs raw fuel false
        return (.loose c :: rest, ended)

def longestLine : Nat := 1000000

def readLine (words : List Octets) : Shell Nat := do
  let (options, names) ← optionsOf "p:r" words
  if names.isEmpty then giveUp (ascii "arg count")
  let raw := options.any fun option => option.1 = 'r'
  let (glyphs, ended) ← onProcess (readGlyphs raw longestLine false)
  let fields := fieldsFor (← separators) names.length glyphs
  for (name, field) in names.zip fields do
    requireName name
    assign name (glyphText field)
  return if ended then 0 else 1

/-- Set the argument of an option, or forget it. -/
def setOptionArgument (value : Option Octets) : Shell Unit :=
  match value with
  | some value => assign (ascii "OPTARG") value
  | none => bind (ascii "OPTARG") none

/-- Take the next option of a script from words. The options that it knows are letters, with a colon behind
    those that take an argument; with a colon in front it wants no complaints. -/
def nextOption (known name : Octets) (words : List Octets) : Shell Nat := do
  let quiet := known.head? = some ':'
  let position := (← get).position
  let position := if words.length + 1 < position.word then {} else position
  let finish (found : Char) (position : OptionPosition) (status : Nat) : Shell Nat := do
    modify fun s => { s with position }
    bind (ascii "OPTIND") (some { ← bindingOf (ascii "OPTIND") with
      value? := some (Text.decimal position.word) })
    requireName name
    assign name [found]
    return status
  let missing (c : Char) (message : String) (letter : Char) (position : OptionPosition) :
      Shell Nat := do
    if quiet then
      setOptionArgument (some [c])
      finish letter position 0
    else
      onProcess (complain (ascii message))
      setOptionArgument none
      finish '?' position 0
  let current := words[position.word - 1]?
  let start : Option (Octets × Nat) :=
    if !position.letters.isEmpty then some (position.letters, position.word)
    else match current with
      | some ('-' :: c :: letters) =>
        if c = '-' && letters.isEmpty then none else some (c :: letters, position.word + 1)
      | _ => none
  match start with
  | none | some ([], _) =>
    let word := if current == some ['-', '-'] then position.word + 1 else position.word
    finish '?' { word } 1
  | some (c :: letters, word) =>
    match optionKind? c known with
    | none => missing c s!"Illegal option -{c}" '?' { word, letters }
    | some false =>
      setOptionArgument (some [])
      finish c { word, letters } 0
    | some true =>
      if !letters.isEmpty then
        setOptionArgument (some letters)
        finish c { word } 0
      else match words[word - 1]? with
        | some argument =>
          setOptionArgument (some argument)
          finish c { word := word + 1 } 0
        | none => missing c s!"No arg for -{c} option" ':' { word }

/-- Take the next option of a script, from its parameters or from words. -/
def getOption (words : List Octets) : Shell Nat := do
  match words with
  | [known, name] => nextOption known name (← get).parameters
  | known :: name :: words => nextOption known name words
  | _ => giveUp (ascii "Usage: getopts optstring var [arg...]")

end AsmLayout.Host
