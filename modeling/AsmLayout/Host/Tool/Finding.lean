import AsmLayout.Host.Sieve
import AsmLayout.Host.Tool.Facts
import AsmLayout.Host.Tool.Starting

/-! # The tool that finds files in trees -/

namespace AsmLayout.Host

open Text (Octets)

structure Quest where
  name : Octets
  launch : Launcher
  options : SieveOptions
  /-- Links are followed. -/
  follows : Bool

/-- How far a search has come. -/
structure Findings where
  status : Nat := 0
  /-- Nothing below the file is looked at. -/
  pruned : Bool := false
  stopped : Bool := false
  /-- Command lines with the paths that were found for them, the last path first. -/
  gathered : List (List Octets × List Octets) := []

abbrev Finding := StateT Findings Act

structure Met where
  subject : Subject
  /-- Where the search started. -/
  origin : Octets
  depth : Nat

namespace Quest

/-- Tell that something failed. -/
def fail (quest : Quest) (message : Octets) : Finding Unit := do
  complainAs quest.name message
  modify fun findings => { findings with status := 1 }

/-- The last name of a path; a path of slashes has none but itself. -/
def baseName (path : Octets) : Octets :=
  if (lastName path).isEmpty then path.take 1 else lastName path

def kindOf (subject : Subject) : Char :=
  match kindLetter subject.node with
  | '-' => 'f'
  | letter => letter

/-- A file seen through a link, or not. -/
def seen (subject : Subject) (follow : Bool) : Act Subject := do
  match ← nodeAt subject.path follow with
  | .ok id => return { subject with id }
  | .error _ => return subject

def directive (met : Met) (place : Place) (letter : Char) : Octets :=
  let subject := met.subject
  let text (t : Octets) : Octets := place.render (.text t)
  let below := (subject.path.drop met.origin.length).dropWhile (· == '/')
  match letter with
  | 'p' => text subject.path
  | 'f' => text (baseName subject.path)
  | 'h' => text (if subject.path.contains '/' then directoryOf subject.path else ['.'])
  | 'H' => text met.origin
  | 'P' => text below
  | 'd' => place.render (.number 10 met.depth)
  | 's' => place.render (subject.fact 's')
  | 'm' => place.render (subject.fact 'a')
  | 'M' => place.render (subject.fact 'A')
  | 'n' => place.render (subject.fact 'h')
  | 'i' => place.render (subject.fact 'i')
  | 'b' => place.render (subject.fact 'b')
  | 'k' => place.render (.number 10 (blocksOfNode subject.node))
  | 'u' | 'g' => text (ascii "root")
  | 'U' | 'G' => place.render (.number 10 0)
  | 'y' => text [kindOf subject]
  | 'l' => match subject.node with
    | .link target => text (Text.octets target)
    | _ => text []
  | 't' | 'a' | 'c' => text (ascii "Thu Jan  1 00:00:00.0000000000 1970")
  | letter => ['%', letter]

/-- A form with the facts of a file in it. -/
def formText (met : Met) : (fuel : Nat) → Octets → Octets
  | 0, _ | _, [] => []
  | fuel + 1, '%' :: '%' :: form => '%' :: formText met fuel form
  | fuel + 1, '%' :: form =>
    let flags := form.takeWhile "-+ #0".toList.contains
    let form := form.drop flags.length
    let width := form.takeWhile Char.isDigit
    let form := form.drop width.length
    match form with
    | [] => ['%']
    | letter :: form =>
      directive met ⟨flags, (String.ofList width).toNat?.getD 0, none⟩ letter ++ formText met fuel form
  | fuel + 1, '\\' :: c :: form =>
    let octal := ((c :: form).take 3).takeWhile fun d => '0' ≤ d && d ≤ '7'
    if !octal.isEmpty then
      let n := octal.foldl (fun n d => n * 8 + (d.toNat - '0'.toNat)) 0
      Char.ofNat (n % 256) :: formText met fuel (form.drop (octal.length - 1))
    else
      match [('a', '\x07'), ('b', '\x08'), ('f', '\x0c'), ('n', '\n'), ('r', '\r'), ('t', '\t'),
        ('v', '\x0b'), ('\\', '\\')].lookup c with
      | some d => d :: formText met fuel form
      | none => if c = 'c' then [] else '\\' :: c :: formText met fuel form
  | fuel + 1, c :: form => c :: formText met fuel form

/-- Run a program; gives whether it went well. -/
def runProgram (quest : Quest) (inside? : Option Octets) (words : List Octets) : Finding Bool := do
  let result ← inChild do
    if let some directory := inside? then
      if let .ok id ← nodeAt directory then modify fun p => { p with working := id }
    launchByName quest.launch words
  match result with
  | .ok (.exited 0) => return true
  | .ok _ => return false
  | .error cause =>
    complainAs quest.name (inQuotes (words.headD []) ++ ascii (": " ++ cause.wording))
    return false

/-- Remove a file or an empty directory. -/
def delete (quest : Quest) (path : Octets) (id : Nat) : Finding Bool := do
  if path = ['.'] then return true
  let found ← files
  let refuse (cause : IoError) : Finding Bool := do
    quest.fail (ascii "cannot delete " ++ inQuotes path ++ ascii (": " ++ cause.wording))
    return false
  if !(found.entries id).isEmpty then refuse .notEmpty
  else match ← changeableSpotOf path with
    | .error cause => refuse cause
    | .ok (directory, name) =>
      changeFiles (·.remove directory name)
      return true

def passes (quest : Quest) (met : Met) : Sieve → Finding Bool
  | .constant holds => return holds
  | .named pattern folded wholePath =>
    let lower (text : Octets) : Octets := if folded then text.map Char.toLower else text
    let path := met.subject.path
    return fitsWhole (patternOfText (lower pattern)) (lower (if wholePath then path else baseName path))
  | .leadsTo pattern => do
    match met.subject.node with
    | .link target => return fitsWhole (patternOfText pattern) (Text.octets target)
    | _ => return false
  | .kind letters other => do
    let subject ← if other then seen met.subject (!quest.follows) else pure met.subject
    return letters.contains (kindOf subject)
  | .empty => do
    match met.subject.node with
    | .file bytes _ => return bytes.isEmpty
    | .directory .. => return (met.subject.files.entries met.subject.id).isEmpty
    | _ => return false
  | .size amount unit =>
    return amount.admits ((sizeOfNode met.subject.node + unit - 1) / unit)
  | .mode how bits => do
    let actual := met.subject.bits
    match how with
    | .exactly => return actual = bits
    | .all => return actual &&& bits = bits
    | .any => return bits = 0 || actual &&& bits != 0
  | .names amount => return amount.admits (linkCount met.subject.files met.subject.id)
  | .readable => return (met.subject.files.mode met.subject.id).canRead
  | .writable => return (met.subject.files.mode met.subject.id).canWrite
  | .runnable => return (met.subject.files.mode met.subject.id).canRun
  | .same path => do
    match ← nodeAt path quest.follows with
    | .ok id => return id = met.subject.id
    | .error _ => return false
  | .tell ending => do
    print (met.subject.path ++ [ending])
    return true
  | .form form => do
    print (formText met (form.length + 1) form)
    return true
  | .run words together inside => do
    let path := met.subject.path
    let name := if inside then ascii "./" ++ baseName path else path
    if together && !inside then
      modify fun findings =>
        let paths := (findings.gathered.lookup words).getD []
        { findings with
          gathered := (findings.gathered.filter fun entry => entry.1 != words) ++
            [(words, path :: paths)] }
      return true
    let filled := words.map fun word => fillIn ['{', '}'] name (word.length + 1) word
    let filled := if together then filled ++ [name] else filled
    let inside? := if !inside then none else some (if path.contains '/' then directoryOf path else ['.'])
    quest.runProgram inside? filled
  | .delete => quest.delete met.subject.path met.subject.id
  | .prune => do
    modify fun findings => { findings with pruned := true }
    return true
  | .quit => do
    modify fun findings => { findings with stopped := true }
    return true
  | .negation sieve => return !(← passes quest met sieve)
  | .both first second => do
    let holds ← passes quest met first
    if holds && !(← get).stopped then passes quest met second else return false
  | .either first second => do
    let holds ← passes quest met first
    if holds || (← get).stopped then return true else passes quest met second
  | .sequence first second => do
    discard (passes quest met first)
    if (← get).stopped then return true else passes quest met second

def look (quest : Quest) (sieve : Sieve) (met : Met) : Finding Unit := do
  modify fun findings => { findings with pruned := false }
  if quest.options.shallowest ≤ met.depth && !(← get).stopped then
    discard (quest.passes met sieve)

/-- Search a tree from a file on. -/
def search (quest : Quest) (sieve : Sieve) (origin : Octets) :
    (fuel : Nat) → (depth : Nat) → (path : Octets) → (id : Nat) → Finding Unit
  | 0, _, _, _ => return
  | fuel + 1, depth, path, id => do
    if (← get).stopped then return
    let met : Met := ⟨⟨path, id, ← files⟩, origin, depth⟩
    if !quest.options.insideFirst then quest.look sieve met
    let findings ← get
    let found ← files
    let isDeep := quest.options.deepest?.any fun deepest => deepest ≤ depth
    let isPruned := findings.pruned && !quest.options.insideFirst
    if found.isDirectory id && !isDeep && !findings.stopped && !isPruned then
      if let .error cause ← nodeAt path then
        quest.fail (inQuotes path ++ ascii (": " ++ cause.wording))
      else if !(found.mode id).canRead then
        quest.fail (inQuotes path ++ ascii ": Permission denied")
      else
        for (name, inner) in found.entries id do
          let child := below path (Text.octets name)
          let id ← if quest.follows then do
              match ← nodeAt child with
              | .ok id => pure id
              | .error _ => pure inner
            else pure inner
          search quest sieve origin fuel (depth + 1) child id
    if quest.options.insideFirst then
      quest.look sieve { met with subject := { met.subject with files := ← files } }

/-- Run the command lines for which paths were gathered. -/
def runGathered (quest : Quest) : Finding Unit := do
  for (words, paths) in (← get).gathered do
    if !(← quest.runProgram none (words ++ paths.reverse)) then
      modify fun findings => { findings with status := 1 }

end Quest

/-- Whether a word is not a path any more. -/
def startsSieve (word : Octets) : Bool :=
  match word with
  | ['!'] | ['('] | [')'] | [','] => true
  | '-' :: _ :: _ => true
  | _ => false

def findFiles : Tool := fun launch name words => do
  let front := words.takeWhile fun word => ["-H", "-L", "-P"].any fun option => word = ascii option
  let words := words.drop front.length
  let words := if words.head? = some ['-', '-'] then words.drop 1 else words
  let origins := words.takeWhile (!startsSieve ·)
  let follows := front.getLast? = some ['-', 'L']
  match Sieve.ofWords (words.drop origins.length) with
  | .error message =>
    complainAs name (ascii message)
    return .exited 1
  | .ok (sieve, options) =>
    let quest : Quest := { name, launch, options, follows }
    let act : Finding Unit := do
      for origin in if origins.isEmpty then [['.']] else origins do
        let mustFollow := follows || front.getLast? = some ['-', 'H'] || origin.getLast? = some '/'
        let id? : Except IoError Nat ← match ← nodeAt origin mustFollow with
          | .ok id => pure (.ok id)
          | .error cause =>
            if origin.getLast? = some '/' then pure (.error cause)
            else match ← nodeAt origin false with
              | .ok id => pure (.ok id)
              | .error _ => pure (.error cause)
        match id? with
        | .error cause => quest.fail (inQuotes origin ++ ascii (": " ++ cause.wording))
        | .ok id => quest.search sieve origin (← files).nodes.size 0 origin id
      quest.runGathered
    let (_, findings) ← act.run {}
    return .exited findings.status

end AsmLayout.Host
