import AsmLayout.Host.Tool.Listing

/-! # The tool that tells facts about files

A form is a text with places for facts. A place names a fact by a letter, and may say how wide it is and how
it is aligned.
-/

namespace AsmLayout.Host

open Text (Octets)

/-- A fact about a file. -/
inductive Fact where
  | text (text : Octets)
  | number (base : Nat) (n : Nat)
  deriving Repr, DecidableEq

/-- A file about which facts are told. -/
structure Subject where
  path : Octets
  id : Nat
  files : FileSystem

namespace Subject

def node (subject : Subject) : Node :=
  subject.files.node subject.id

/-- The permissions. Links have all of them. -/
def bits (subject : Subject) : Nat :=
  match subject.node with
  | .link _ => 0o777
  | _ => (subject.files.mode subject.id).bits

def deviceNumbers (subject : Subject) : Nat × Nat :=
  match subject.node with
  | .device .null => (1, 3)
  | .device .zero => (1, 5)
  | .device .full => (1, 7)
  | .device _ => (5, 0)
  | _ => (0, 0)

/-- The number for what kind of node it is. -/
def kindBits (subject : Subject) : Nat :=
  match subject.node with
  | .directory .. => 0o40000
  | .link _ => 0o120000
  | .device _ => 0o20000
  | _ => 0o100000

/-- The path in quotes, and where it leads if it is a link. -/
def quotedPath (subject : Subject) : Octets :=
  inQuotes subject.path ++
    match subject.node with
    | .link target => ascii " -> " ++ inQuotes (Text.octets target)
    | _ => []

/-- The fact that a letter stands for. Time stands still here. -/
def fact (subject : Subject) (letter : Char) : Fact :=
  let hour := ascii "1970-01-01 00:00:00.000000000 +0000"
  match letter with
  | 'n' => .text subject.path
  | 'N' => .text subject.quotedPath
  | 's' => .number 10 (sizeOfNode subject.node)
  | 'F' => .text (kindName subject.files subject.id)
  | 'a' => .number 8 subject.bits
  | 'A' => .text (kindLetter subject.node :: ascii (Mode.letters ⟨subject.bits⟩))
  | 'f' => .number 16 (subject.kindBits + subject.bits)
  | 'h' => .number 10 (linkCount subject.files subject.id)
  | 'b' => .number 10 (2 * blocksOfNode subject.node)
  | 'B' => .number 10 512
  | 'o' => .number 10 4096
  | 'u' | 'g' => .number 10 0
  | 'U' | 'G' => .text (ascii "root")
  | 'i' => .number 10 (subject.id + 1)
  | 'd' => .number 10 1
  | 'D' => .number 16 1
  | 't' => .number 16 subject.deviceNumbers.1
  | 'T' => .number 16 subject.deviceNumbers.2
  | 'm' => .text ['/']
  | 'w' => .text ['-']
  | 'x' | 'y' | 'z' => .text hour
  | 'W' | 'X' | 'Y' | 'Z' => .number 10 0
  | _ => .text ['?']

end Subject

structure Place where
  flags : Octets
  width : Nat
  precision? : Option Nat
  deriving Repr, DecidableEq

def Place.render (place : Place) (fact : Fact) : Octets :=
  let body := match fact with
    | .text text => match place.precision? with
      | some n => text.take n
      | none => text
    | .number base n =>
      let digits := Nat.toDigits base n
      let digits := List.replicate (place.precision?.getD 0 - digits.length) '0' ++ digits
      if !place.flags.contains '#' || n = 0 then digits
      else if base = 8 then '0' :: digits
      else if base = 16 then '0' :: 'x' :: digits else digits
  let isNumber := match fact with
    | .number .. => true
    | .text _ => false
  let missing := place.width - body.length
  if place.flags.contains '-' then body ++ List.replicate missing ' '
  else if place.flags.contains '0' && isNumber && place.precision?.isNone then
    List.replicate missing '0' ++ body
  else List.replicate missing ' ' ++ body

/-- A form with the facts in their places. Escapes are read where asked for; those that mean nothing are
    given too. -/
def fillForm (subject : Subject) (escapes : Bool) : (fuel : Nat) → Octets → Octets × List Char
  | 0, _ => ([], [])
  | _, [] => ([], [])
  | fuel + 1, '%' :: form =>
    let flags := form.takeWhile "-+ #0'".toList.contains
    let form := form.drop flags.length
    let width := form.takeWhile Char.isDigit
    let form := form.drop width.length
    let (precision?, form) := match form with
      | '.' :: form =>
        let digits := form.takeWhile Char.isDigit
        (some ((String.ofList digits).toNat?.getD 0), form.drop digits.length)
      | form => (none, form)
    let place : Place := ⟨flags, (String.ofList width).toNat?.getD 0, precision?⟩
    let (shown, form) := match form with
      | [] => (['%'], [])
      | '%' :: form => (['%'], form)
      | 'H' :: 'd' :: form => (place.render (.number 10 0), form)
      | 'L' :: 'd' :: form => (place.render (.number 10 1), form)
      | 'H' :: 'r' :: form => (place.render (.number 10 subject.deviceNumbers.1), form)
      | 'L' :: 'r' :: form => (place.render (.number 10 subject.deviceNumbers.2), form)
      | letter :: form => (place.render (subject.fact letter), form)
    let (rest, odd) := fillForm subject escapes fuel form
    (shown ++ rest, odd)
  | fuel + 1, '\\' :: c :: form =>
    if !escapes then
      let (rest, odd) := fillForm subject escapes fuel (c :: form)
      ('\\' :: rest, odd)
    else
      let octal := ((c :: form).take 3).takeWhile fun d => '0' ≤ d && d ≤ '7'
      let sixteen := (form.take 2).takeWhile fun d => d.isDigit || ('a' ≤ d.toLower && d.toLower ≤ 'f')
      let digit (d : Char) : Nat :=
        if d.isDigit then d.toNat - '0'.toNat else d.toLower.toNat - 'a'.toNat + 10
      let value (base : Nat) (digits : Octets) : Char :=
        Char.ofNat (digits.foldl (fun n d => n * base + digit d) 0 % 256)
      let simple := [('a', '\x07'), ('b', '\x08'), ('e', '\x1b'), ('f', '\x0c'), ('n', '\n'), ('r', '\r'),
        ('t', '\t'), ('v', '\x0b'), ('"', '"'), ('\\', '\\')]
      let (shown, form, odd) : Octets × Octets × List Char :=
        if !octal.isEmpty then ([value 8 octal], form.drop (octal.length - 1), [])
        else if c = 'x' && !sixteen.isEmpty then ([value 16 sixteen], form.drop sixteen.length, [])
        else match simple.lookup c with
          | some d => ([d], form, [])
          | none => ([c], form, [c])
      let (rest, others) := fillForm subject escapes fuel form
      (shown ++ rest, odd ++ others)
  | fuel + 1, c :: form =>
    let (rest, odd) := fillForm subject escapes fuel form
    (c :: rest, odd)

/-- The form that tells most facts. -/
def fullForm : Octets :=
  ascii ("  File: %N\n  Size: %-10s\tBlocks: %-10b IO Block: %-6o %F\n" ++
    "Device: %Hd,%Ld\tInode: %-11i Links: %h\n" ++
    "Access: (%04a/%10.10A)  Uid: (%5u/%8U)   Gid: (%5g/%8G)\n" ++
    "Access: %x\nModify: %y\nChange: %z\n Birth: %w\n")

/-- The form that tells most facts on one line. -/
def shortForm : Octets :=
  ascii "%n %s %b %f %u %g %D %i %h %t %T %X %Y %Z %W %o\n"

def tellFacts : Tool := fun _ =>
  withTable
    { flags := "Lt", valued := "cp"
      long := [("dereference", 'L'), ("terse", 't'), ("format", 'c'), ("printf", 'p')] } 1
    fun call => do
      if call.operands.isEmpty then
        complainOfWords call.name (ascii "missing operand")
        return 1
      let (form, escapes, ending) :=
        match call.options.reverse.find? fun (letter, _) => "cp".toList.contains letter with
        | some ('c', form) => (form, false, ['\n'])
        | some (_, form) => (form, true, [])
        | none => (if call.has 't' then shortForm else fullForm, false, [])
      forOperands call.operands fun path => do
        match ← nodeAt path (call.has 'L' || path.getLast? = some '/') with
        | .error cause =>
          complainAs call.name (ascii "cannot statx " ++ inQuotes path ++ ascii (": " ++ cause.wording))
          return false
        | .ok id =>
          let (text, odd) := fillForm ⟨path, id, ← files⟩ escapes (form.length + 1) form
          for c in odd do
            complainAs call.name (ascii "warning: unrecognized escape '\\" ++ [c, '\''])
          print (text ++ ending)
          return true

end AsmLayout.Host
