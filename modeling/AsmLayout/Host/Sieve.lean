import AsmLayout.File.Mode
import AsmLayout.Host.Shell.Pattern

/-! # Conditions on files in a tree

A sieve is a condition that is looked at for each file of a tree. Some conditions are there for what they do:
they show the file, remove it, or run a program.
-/

namespace AsmLayout.Host

open Text (Octets)

/-- A number of which a condition wants so many, more or fewer. -/
structure Amount where
  /-- How the number found has to compare. -/
  order : Ordering
  n : Nat
  deriving Repr, DecidableEq

def Amount.admits (amount : Amount) (n : Nat) : Bool :=
  Ord.compare n amount.n == amount.order

inductive ModeMatch where
  | exactly
  | all
  | any
  deriving Repr, DecidableEq

inductive Sieve where
  | constant (holds : Bool)
  /-- The last name fits a pattern, or the whole path does. -/
  | named (pattern : Octets) (folded wholePath : Bool)
  /-- It is a link to what fits a pattern. -/
  | leadsTo (pattern : Octets)
  /-- It is of a kind; links are followed or not, the other way than else. -/
  | kind (letters : Octets) (other : Bool)
  | empty
  /-- How many units it takes. -/
  | size (amount : Amount) (unit : Nat)
  | mode (how : ModeMatch) (bits : Nat)
  | names (amount : Amount)
  | readable
  | writable
  | runnable
  /-- It is the file at a path. -/
  | same (path : Octets)
  /-- Show the path with something behind it. -/
  | tell (ending : Char)
  /-- Show facts. -/
  | form (form : Octets)
  /-- Run a program, for each file or for many together, there or where its directory is. -/
  | run (words : List Octets) (together inside : Bool)
  | delete
  /-- Look at nothing below. -/
  | prune
  | quit
  | negation (sieve : Sieve)
  | both (first second : Sieve)
  | either (first second : Sieve)
  | sequence (first second : Sieve)
  deriving Repr

structure SieveOptions where
  deepest? : Option Nat := none
  shallowest : Nat := 0
  /-- What is in a directory comes before the directory itself. -/
  insideFirst : Bool := false
  /-- There are conditions that do something, so paths are not shown besides. -/
  acts : Bool := false
  deriving Repr, DecidableEq

namespace Sieve

/-- What is left to be read, and what was found about options. -/
structure Source where
  words : List Octets
  options : SieveOptions

/-- Reading a sieve, or what is wrong with it. -/
abbrev Reading := StateT Source (Except String)

def peek? : Reading (Option Octets) :=
  return (← get).words.head?

def skip : Reading Unit :=
  modify fun source => { source with words := source.words.drop 1 }

/-- A word as a text of a message. -/
def shown (word : Octets) : String :=
  String.ofList word

def argument (name : Octets) : Reading Octets := do
  match ← peek? with
  | some word =>
    skip
    return word
  | none => throw s!"missing argument to \x60{shown name}'"

def setOptions (change : SieveOptions → SieveOptions) : Reading Unit :=
  modify fun source => { source with options := change source.options }

def acting (sieve : Sieve) : Reading Sieve := do
  setOptions fun options => { options with acts := true }
  return sieve

/-- A number that says how it has to be met. -/
def amountOf? (text : Octets) : Option (Amount × Octets) :=
  let (order, text) := match text with
    | '+' :: rest => (Ordering.gt, rest)
    | '-' :: rest => (Ordering.lt, rest)
    | text => (Ordering.eq, text)
  let digits := text.takeWhile Char.isDigit
  (String.ofList digits).toNat?.map fun n => (⟨order, n⟩, text.drop digits.length)

/-- A number without anything around. -/
def plainNumber (name : Octets) : Reading Nat := do
  let text ← argument name
  match (String.ofList text).toNat? with
  | some n =>
    if text.all Char.isDigit then return n
    else throw s!"Expected a positive decimal integer argument to {shown name}, but got '{shown text}'"
  | none =>
    throw s!"Expected a positive decimal integer argument to {shown name}, but got '{shown text}'"

/-- An amount as the only argument. -/
def amount (name : Octets) : Reading Amount := do
  let text ← argument name
  match amountOf? text with
  | some (amount, []) => return amount
  | _ => throw s!"invalid argument \x60{shown text}' to \x60{shown name}'"

/-- Whether the mark for a path stands in a word. -/
def hasMark : Octets → Bool
  | '{' :: '}' :: _ => true
  | _ :: rest => hasMark rest
  | [] => false

/-- The words of a program, up to the one that ends them. -/
def commandFrom (name : Octets) : (fuel : Nat) → (mayJoin : Bool) → Reading (List Octets × Bool)
  | 0, _ => throw s!"missing argument to \x60{shown name}'"
  | fuel + 1, mayJoin => do
    let word ← argument name
    if word = [';'] then return ([], false)
    else if word = ['+'] && mayJoin then return ([], true)
    else
      let (words, together) ← commandFrom name fuel (hasMark word)
      return (word :: words, together)

def program (name : Octets) (inside : Bool) : Reading Sieve := do
  let (words, together) ← commandFrom name ((← get).words.length + 1) false
  if words.isEmpty || words = [['{', '}']] && together then
    throw s!"missing argument to \x60{shown name}'"
  if together then
    if let some word := words.find? fun word => hasMark word && word != ['{', '}'] then
      throw (s!"In '{shown name} ... \x7b\x7d +' the '\x7b\x7d' must appear by itself, but you " ++
        s!"specified '{shown word}'")
    if 1 < words.count ['{', '}'] then
      throw s!"Only one instance of \x7b\x7d is supported with {shown name} ... +"
  acting (.run (if together then words.dropLast else words) together inside)

/-- The letters of kinds, with commas between them. -/
def kindLetters (name text : Octets) : Reading Octets := do
  let parts := Text.splitAtChar ',' text
  for part in parts do
    match part with
    | [c] =>
      if !"bcdpflsD".toList.contains c then throw s!"Unknown argument to {shown name}: {c}"
    | [] =>
      throw (if text.isEmpty then s!"Arguments to {shown name} should contain at least one letter"
        else s!"Last file type in list argument to {shown name} is missing, i.e., list is ending on: ','")
    | c :: _ =>
      if !"bcdpflsD".toList.contains c then throw s!"Unknown argument to {shown name}: {c}"
      else throw s!"Must separate multiple arguments to {shown name} using: ','"
  return parts.flatten

/-- The permissions that a text asks for. -/
def permissions (text : Octets) : Reading Sieve := do
  let (how, digits) : ModeMatch × Octets := match text with
    | '-' :: rest => (.all, rest)
    | '/' :: rest => (.any, rest)
    | text => (.exactly, text)
  match Mode.readChange? digits with
  | some steps => return .mode how (Mode.afterSteps 0 false steps ⟨0⟩).bits
  | none => throw s!"invalid mode '{shown text}'"

def condition (name : Octets) : Reading Sieve := do
  match shown name with
  | "-true" => return .constant true
  | "-false" => return .constant false
  | "-name" => return .named (← argument name) false false
  | "-iname" => return .named (← argument name) true false
  | "-path" | "-wholename" => return .named (← argument name) false true
  | "-ipath" | "-iwholename" => return .named (← argument name) true true
  | "-lname" => return .leadsTo (← argument name)
  | "-type" => return .kind (← kindLetters name (← argument name)) false
  | "-xtype" => return .kind (← kindLetters name (← argument name)) true
  | "-empty" => return .empty
  | "-size" =>
    let text ← argument name
    let wrong := s!"Invalid argument \x60{shown text}' to -size"
    match amountOf? text with
    | some (amount, unit) =>
      let units := [([], 512), (['b'], 512), (['c'], 1), (['w'], 2), (['k'], 1024), (['M'], 1048576),
        (['G'], 1073741824)]
      match units.lookup unit with
      | some unit => return .size amount unit
      | none => throw wrong
    | none => throw wrong
  | "-perm" => permissions (← argument name)
  | "-links" => return .names (← amount name)
  | "-readable" => return .readable
  | "-writable" => return .writable
  | "-executable" => return .runnable
  | "-samefile" => return .same (← argument name)
  | "-mtime" | "-atime" | "-ctime" => return .constant ((← amount name).admits 0)
  | "-mmin" | "-amin" | "-cmin" => return .constant ((← amount name).admits 1)
  | "-newer" | "-anewer" | "-cnewer" =>
    discard (argument name)
    return .constant false
  | "-user" | "-group" =>
    let owner ← argument name
    if owner = ['0'] || owner = "root".toList then return .constant true
    else if !owner.isEmpty && owner.all Char.isDigit then return .constant false
    else if name = "-user".toList then throw s!"'{shown owner}' is not the name of a known user"
    else throw s!"'{shown owner}' is not the name of an existing group"
  | "-print" => acting (.tell '\n')
  | "-print0" => acting (.tell '\x00')
  | "-printf" => acting (.form (← argument name))
  | "-exec" => program name false
  | "-execdir" => program name true
  | "-delete" =>
    setOptions fun options => { options with insideFirst := true }
    acting .delete
  | "-prune" => return .prune
  | "-quit" => return .quit
  | "-maxdepth" =>
    let n ← plainNumber name
    setOptions fun options => { options with deepest? := some n }
    return .constant true
  | "-mindepth" =>
    let n ← plainNumber name
    setOptions fun options => { options with shallowest := n }
    return .constant true
  | "-depth" | "-d" =>
    setOptions fun options => { options with insideFirst := true }
    return .constant true
  | "-xdev" | "-mount" | "-noleaf" | "-daystart" | "-warn" | "-nowarn" | "-follow"
  | "-ignore_readdir_race" | "-noignore_readdir_race" => return .constant true
  | _ =>
    if name.head? = some '-' then throw s!"unknown predicate \x60{shown name}'"
    else throw s!"paths must precede expression: \x60{shown name}'"

/-- The words that join conditions, each under the first name. -/
def joint? (word : Octets) : Option String :=
  match shown word with
  | "-o" | "-or" => some "-o"
  | "-a" | "-and" => some "-a"
  | "," => some ","
  | ")" => some ")"
  | _ => none

mutual

/-- A condition, perhaps negated or in parentheses. -/
def simple : (fuel : Nat) → (before : String) → Reading Sieve
  | 0, _ => throw "expression is too deep"
  | fuel + 1, before => do
    match ← peek? with
    | none => throw s!"expected an expression after '{before}'"
    | some word =>
      skip
      match shown word with
      | "!" | "-not" => return .negation (← simple fuel (shown word))
      | "(" =>
        if (← peek?) = some [')'] then
          throw "invalid expression; empty parentheses are not allowed."
        let missing := "invalid expression; I was expecting to find a ')' somewhere but did not see one."
        if (← peek?).isNone then throw missing
        let inside ← sequences fuel
        match ← peek? with
        | some [')'] =>
          skip
          return inside
        | _ => throw missing
      | _ =>
        match joint? word with
        | some ")" =>
          throw ("invalid expression; expected to find a ')' but didn't see one.  Perhaps you need an " ++
            "extra predicate after '('")
        | some _ =>
          throw (s!"invalid expression; you have used a binary operator '{shown word}' with nothing " ++
            "before it.")
        | none => condition word

def conjunction : (fuel : Nat) → (before : String) → Reading Sieve
  | 0, _ => throw "expression is too deep"
  | fuel + 1, before => do
    let first ← simple fuel before
    match ← peek? with
    | none => return first
    | some word =>
      match joint? word with
      | some "-a" =>
        skip
        return .both first (← conjunction fuel (shown word))
      | some _ => return first
      | none => return .both first (← conjunction fuel (shown word))

def disjunction : (fuel : Nat) → (before : String) → Reading Sieve
  | 0, _ => throw "expression is too deep"
  | fuel + 1, before => do
    let first ← conjunction fuel before
    match ← peek? with
    | some word =>
      if joint? word = some "-o" then
        skip
        return .either first (← disjunction fuel (shown word))
      else return first
    | none => return first

def sequences : (fuel : Nat) → Reading Sieve
  | 0 => throw "expression is too deep"
  | fuel + 1 => do
    let first ← disjunction fuel "("
    match ← peek? with
    | some [','] =>
      skip
      if (← peek?).isNone then throw "expected an expression after ','"
      return .sequence first (← sequences fuel)
    | _ => return first

end

/-- The sieve of words, with its options. Without conditions that do something, paths are shown. -/
def ofWords (words : List Octets) : Except String (Sieve × SieveOptions) := do
  if words.isEmpty then return (.tell '\n', {})
  else
    let (sieve, source) ← (sequences (4 * words.length + 4)).run ⟨words, {}⟩
    if !source.words.isEmpty then throw "you have too many ')'"
    return (if source.options.acts then sieve else .both sieve (.tell '\n'), source.options)

end Sieve

/-- The pattern of a text in which a backslash takes the meaning from the next character. -/
def patternOfText (text : Octets) : List PatternPart :=
  let rec go : Octets → List Glyph
    | '\\' :: c :: rest => .quoted c :: go rest
    | c :: rest => .plain c :: go rest
    | [] => []
  patternOf (go text)

end AsmLayout.Host
