import AsmLayout.Host.Checksum
import AsmLayout.Host.Checksum.Hash
import AsmLayout.Host.Shell.Arithmetic
import AsmLayout.Host.Tool

/-! # Tools that show check sums

A line with a hash tells which file it is of, so that the hash can be compared later on.
-/

namespace AsmLayout.Host

open Text (Octets)

/-- The hashes: the name in front of a file in parentheses, and the function. -/
inductive HashKind where
  | md5
  | sha1
  | sha224
  | sha256
  | sha384
  | sha512
  deriving Repr, DecidableEq

namespace HashKind

def all : List HashKind :=
  [md5, sha1, sha224, sha256, sha384, sha512]

def name : HashKind → String
  | md5 => "MD5"
  | sha1 => "SHA1"
  | sha224 => "SHA224"
  | sha256 => "SHA256"
  | sha384 => "SHA384"
  | sha512 => "SHA512"

def hash : HashKind → Octets → Octets
  | md5 => Checksum.md5
  | sha1 => Checksum.sha1
  | sha224 => Checksum.Sha2.sha224.digest
  | sha256 => Checksum.Sha2.sha256.digest
  | sha384 => Checksum.Sha2.sha384.digest
  | sha512 => Checksum.Sha2.sha512.digest

def digits : HashKind → Nat
  | md5 => 32
  | sha1 => 40
  | sha224 => 56
  | sha256 => 64
  | sha384 => 96
  | sha512 => 128

end HashKind

/-- A name with backslashes in front of what would spoil its line. -/
def lineName (name : Octets) : Octets :=
  name.flatMap fun c =>
    if c = '\n' then ['\\', 'n'] else if c = '\r' then ['\\', 'r']
    else if c = '\\' then ['\\', '\\'] else [c]

/-- The name that is written with backslashes. -/
def nameOfLine : Octets → Octets
  | '\\' :: 'n' :: rest => '\n' :: nameOfLine rest
  | '\\' :: 'r' :: rest => '\r' :: nameOfLine rest
  | '\\' :: '\\' :: rest => '\\' :: nameOfLine rest
  | c :: rest => c :: nameOfLine rest
  | [] => []

def hashLine (kind : HashKind) (tagged binary zero : Bool) (path hash : Octets) : Octets :=
  let name := if zero then path else lineName path
  let front : Octets := if name.length = path.length then [] else ['\\']
  (if tagged then front ++ ascii (kind.name ++ " (") ++ name ++ ascii ") = " ++ hash
   else front ++ hash ++ [' ', if binary then '*' else ' '] ++ name) ++
    [if zero then '\x00' else '\n']

/-- The file that a line is about, with its hash. -/
def readHashLine? (kind : HashKind) (line : Octets) : Option (Octets × Octets) :=
  let (escaped, line) : Bool × Octets := match line with
    | '\\' :: rest => (true, rest)
    | line => (false, line)
  let nameOf (text : Octets) : Octets := if escaped then nameOfLine text else text
  let isHash (text : Octets) : Bool :=
    text.length = kind.digits && text.all (Arithmetic.isDigitOf 16)
  let tag := ascii (kind.name ++ " (")
  if tag.isPrefixOf line then
    let rest := line.drop tag.length
    let hash := rest.drop (rest.length - kind.digits)
    let front := rest.take (rest.length - kind.digits)
    if isHash hash && (ascii ") = ").isSuffixOf front then
      some (nameOf (front.take (front.length - 4)), hash)
    else none
  else
    let line := line.dropWhile fun c => c = ' ' || c = '\t'
    match line.drop kind.digits with
    | ' ' :: c :: name =>
      if isHash (line.take kind.digits) && (c = ' ' || c = '*') && !name.isEmpty then
        some (nameOf name, line.take kind.digits)
      else none
    | _ => none

/-- Tell how many things are wrong. -/
def warnOfCount (call : Call) (count : Nat) (one several : String) : Act Unit := do
  if 0 < count then
    complainAs call.name (ascii s!"WARNING: {count} {if count = 1 then one else several}")

/-- Compare files with the hashes that the lines of a list tell. -/
def checkHashes (kinds : List HashKind) (call : Call) (list : Octets) : Act Bool := do
  match ← readOperand list with
  | .error cause =>
    complainOfFile call.name list cause
    return false
  | .ok bytes =>
    let silent := call.has '\x02'
    let mut good := true
    let mut found := 0
    let mut malformed := 0
    let mut unread := 0
    let mut different := 0
    let mut verified := 0
    for line in Text.lineList bytes do
      if line.head? = some '#' then continue
      match kinds.findSome? fun kind => (readHashLine? kind line).map fun entry => (kind, entry) with
      | none => malformed := malformed + 1
      | some (kind, path, wanted) =>
        found := found + 1
        let shown := lineName path
        let shown := if shown.length = path.length then path else '\\' :: shown
        match ← readOperand path with
        | .error .notFound =>
          if !call.has '\x04' then
            complainOfFile call.name path .notFound
            if !silent then print (shown ++ ascii ": FAILED open or read\n")
            unread := unread + 1
        | .error cause =>
          complainOfFile call.name path cause
          if !silent then print (shown ++ ascii ": FAILED open or read\n")
          unread := unread + 1
        | .ok text =>
          if kind.hash text == wanted.map Char.toLower then
            verified := verified + 1
            if !silent && !call.has '\x01' then print (shown ++ ascii ": OK\n")
          else
            different := different + 1
            if !silent then print (shown ++ ascii ": FAILED\n")
    let listed := if list == ['-'] then ascii "'standard input'" else fileName list
    if found = 0 then
      complainAs call.name (listed ++ ascii ": no properly formatted checksum lines found")
      good := false
    else
      if !silent then
        warnOfCount call malformed "line is improperly formatted" "lines are improperly formatted"
        warnOfCount call unread "listed file could not be read" "listed files could not be read"
        warnOfCount call different "computed checksum did NOT match"
          "computed checksums did NOT match"
      if call.has '\x04' && verified = 0 && unread = 0 && different = 0 then
        if !silent then complainAs call.name (listed ++ ascii ": no file was verified")
        good := false
      if 0 < unread || 0 < different || (call.has '\x03' && 0 < malformed) then good := false
    return good

def hashOptions : OptionTable where
  flags := "btczw\x01\x02\x03\x04\x05"
  long := [("binary", 'b'), ("text", 't'), ("check", 'c'), ("zero", 'z'), ("warn", 'w'),
    ("quiet", '\x01'), ("status", '\x02'), ("strict", '\x03'), ("ignore-missing", '\x04'),
    ("tag", '\x05')]

/-- Do something with the bytes of each operand; gives the status. -/
def forInputs (call : Call) (act : (path bytes : Octets) → Act Unit) : Act Nat := do
  let mut status := 0
  for path in call.inputs do
    match ← readOperand path with
    | .ok bytes => act path bytes
    | .error cause =>
      complainOfFile call.name path cause
      status := 1
  return status

def showHashes (kind : HashKind) : Tool := fun _ =>
  withTable hashOptions 1 fun call => do
    if call.has 'c' then
      let mut status := 0
      for list in call.inputs do
        if !(← checkHashes [kind] call list) then status := 1
      return status
    else
      forInputs call fun path bytes =>
        print (hashLine kind (call.has '\x05') (call.has 'b') (call.has 'z') path (kind.hash bytes))

/-- The name of a file behind its sum, if it has one. -/
def behindSum (call : Call) (path : Octets) : Octets :=
  (if call.operands.isEmpty then [] else ' ' :: path) ++ ['\n']

/-- The sum that goes round, and how many blocks of 1024 bytes there are. -/
def rotatingLine (call : Call) (path bytes : Octets) : Octets :=
  let digits := Text.decimal (Checksum.rotating bytes)
  List.replicate (5 - digits.length) '0' ++ digits ++ ' ' ::
    alignRight 5 (Text.decimal ((bytes.length + 1023) / 1024)) ++ behindSum call path

/-- The sum of all bytes, and how many blocks of 512 bytes there are. -/
def foldedLine (call : Call) (path bytes : Octets) : Octets :=
  Text.decimal (Checksum.folded bytes) ++ ' ' :: Text.decimal ((bytes.length + 511) / 512) ++
    behindSum call path

/-- The cyclic sum, and how many bytes there are. -/
def cyclicLine (call : Call) (path bytes : Octets) : Octets :=
  Text.decimal (Checksum.cyclic bytes) ++ ' ' :: Text.decimal bytes.length ++ behindSum call path

def showSums : Tool := fun _ =>
  withTable { flags := "rs", long := [("sysv", 's')] } 1 fun call =>
    forInputs call fun path bytes =>
      print (if call.last? ['r', 's'] = some 's' then foldedLine call path bytes
        else rotatingLine call path bytes)

def sumNames : List String :=
  ["bsd", "sysv", "crc", "md5", "sha1", "sha224", "sha256", "sha384", "sha512", "blake2b", "sm3"]

/-- Show check sums of a kind that can be chosen. -/
def showChecksums : Tool := fun _ =>
  withTable
    { hashOptions with
      flags := hashOptions.flags ++ "\x06", valued := "a"
      long := hashOptions.long ++ [("algorithm", 'a'), ("untagged", '\x06')] } 1
    fun call => do
      let chosen := String.ofList ((call.value? 'a').getD (ascii "crc"))
      if !sumNames.contains chosen then
        complainAs call.name (ascii "invalid argument " ++ inMarks chosen.toList ++
          ascii " for '--algorithm'")
        complain (ascii "Valid arguments are:")
        for name in sumNames do complain (ascii "  - " ++ inMarks name.toList)
        complain (ascii "Try '" ++ call.name ++ ascii " --help' for more information.")
        return 1
      if call.has 'c' then
        let mut status := 0
        for list in call.inputs do
          if !(← checkHashes HashKind.all call list) then status := 1
        return status
      match HashKind.all.find? fun kind => kind.name == chosen.toUpper with
      | some kind =>
        forInputs call fun path bytes =>
          print (hashLine kind (!call.has '\x06') (call.has 'b') (call.has 'z') path
            (kind.hash bytes))
      | none =>
        let line := if chosen == "bsd" then rotatingLine
          else if chosen == "sysv" then foldedLine else cyclicLine
        forInputs call fun path bytes => print (line call path bytes)

end AsmLayout.Host
