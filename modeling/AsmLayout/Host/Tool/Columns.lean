import AsmLayout.Host.Shell.Formatting
import AsmLayout.Host.Shell.Pattern
import AsmLayout.Host.Tool

/-! # Tools that work on characters and columns -/

namespace AsmLayout.Host

open Text (Octets)

def allBytes : Octets :=
  (List.range 256).map Char.ofNat

/-- A character of a set as it is written, with what follows. -/
def setCharacter : Octets → Option (Char × Octets)
  | [] => none
  | '\\' :: rest =>
    match rest with
    | [] => some ('\\', [])
    | c :: behind =>
      match letterEscape? c with
      | some found => if c = 'e' then some ('e', behind) else some (found, behind)
      | none => if (octalDigit? c).isSome then some (octalByte 3 0 (c :: behind)) else some (c, behind)
  | c :: rest => some (c, rest)

/-- The characters between two others. -/
def rangeOf (low high : Char) : Octets :=
  allBytes.filter fun c => low ≤ c && c ≤ high

inductive SetPart where
  | characters (characters : Octets)
  /-- A character that fills up what is left. -/
  | filling (c : Char)
  deriving Repr, DecidableEq

def setParts : (fuel : Nat) → Octets → Except String (List SetPart)
  | 0, _ | _, [] => .ok []
  | fuel + 1, '[' :: ':' :: rest =>
    let name := rest.takeWhile Char.isAlpha
    match rest.drop name.length with
    | ':' :: ']' :: behind => do
      let members := allBytes.filter (inClass (String.ofList name))
      if members.isEmpty then throw s!"invalid character class '{String.ofList name}'"
      return .characters members :: (← setParts fuel behind)
    | _ => do return .characters ['['] :: (← setParts fuel (':' :: rest))
  | fuel + 1, '[' :: '=' :: c :: '=' :: ']' :: rest => do
    return .characters [c] :: (← setParts fuel rest)
  | fuel + 1, text =>
    match text with
    | '[' :: c :: '*' :: rest =>
      let digits := rest.takeWhile Char.isDigit
      match rest.drop digits.length with
      | ']' :: behind => do
        let n := if digits.head? = some '0' then (Arithmetic.digits 8 digits).1
          else (Arithmetic.digits 10 digits).1
        let part := if n = 0 then SetPart.filling c else .characters (List.replicate n c)
        return part :: (← setParts fuel behind)
      | _ => do return .characters ['['] :: (← setParts fuel (c :: '*' :: rest))
    | text =>
      match setCharacter text with
      | none => .ok []
      | some (low, '-' :: rest) =>
        match setCharacter rest with
        | none => .ok [.characters [low, '-']]
        | some (high, behind) =>
          if high < low then
            .error s!"range-endpoints of '{low}-{high}' are in reverse collating sequence order"
          else do return .characters (rangeOf low high) :: (← setParts fuel behind)
      | some (c, rest) => do return .characters [c] :: (← setParts fuel rest)

/-- The characters of a set that shall have so many. -/
def expandSet (wanted : Nat) (parts : List SetPart) : Octets :=
  let fixed := (parts.map fun
    | .characters cs => cs.length
    | .filling _ => 0).foldl (· + ·) 0
  parts.flatMap fun
    | .characters cs => cs
    | .filling c => List.replicate (wanted - fixed) c

/-- A text with one character in the place of several from a set. -/
def squeeze (members : Octets) : (last : Option Char) → Octets → Octets
  | _, [] => []
  | last, c :: rest =>
    if last = some c && members.contains c then squeeze members last rest
    else c :: squeeze members (some c) rest

/-- The character in the place of another one. -/
def translateWith (first second : Octets) (c : Char) : Char :=
  match (first.zipIdx.filter fun entry => entry.1 == c).getLast? with
  | some (_, i) => second.getD i (second.getLastD c)
  | none => c

/-- Change, drop or squeeze characters. -/
def translate : Tool := fun _ =>
  withTable
    { flags := "cCdst", mixed := false
      long := [("complement", 'c'), ("delete", 'd'), ("squeeze-repeats", 's'),
        ("truncate-set1", 't')] } 1
    fun call => do
      let deleting := call.has 'd'
      let squeezing := call.has 's'
      let needed := if deleting == squeezing then 2 else 1
      let most := if deleting && !squeezing then 1 else 2
      match call.operands[0]? with
      | none =>
        complainOfWords call.name (ascii "missing operand")
        return 1
      | some one =>
        if call.operands.length < needed then
          complainAs call.name (ascii "missing operand after " ++ inMarks one)
          complain (ascii (if deleting
            then "Two strings must be given when both deleting and squeezing repeats."
            else "Two strings must be given when translating."))
          complain (ascii "Try '" ++ call.name ++ ascii " --help' for more information.")
          return 1
        else if let some extra := call.operands[most]? then
          complainAs call.name (ascii "extra operand " ++ inMarks extra)
          if deleting && !squeezing then
            complain (ascii "Only one string may be given when deleting without squeezing repeats.")
          complain (ascii "Try '" ++ call.name ++ ascii " --help' for more information.")
          return 1
        else
          let two := call.operands.getD 1 []
          match setParts (one.length + 1) one, setParts (two.length + 1) two with
          | .error message, _ | _, .error message =>
            complainAs call.name (ascii message)
            return 1
          | .ok first, .ok second =>
            let plain := expandSet 0 first
            let first := if call.has 'c' || call.has 'C'
              then allBytes.filter fun c => !plain.contains c else plain
            let second := expandSet first.length second
            if needed == 2 && !deleting && second.isEmpty then
              complainAs call.name (ascii "when not truncating set1, string2 must be non-empty")
              return 1
            let text := (← readAll 0).toOption.getD []
            let output :=
              if deleting then
                let left := text.filter fun c => !first.contains c
                if squeezing then squeeze second none left else left
              else if call.operands.length == 1 then squeeze first none text
              else
                let changed := text.map (translateWith first second)
                if squeezing then squeeze second none changed else changed
            print output
            return 0

/-- Positions from one to another one, or up to the end. -/
structure Span where
  low : Nat
  high : Option Nat
  deriving Repr, DecidableEq

/-- Whether a position lies in a span. -/
def Span.contains (span : Span) (n : Nat) : Bool :=
  span.low ≤ n && (match span.high with
    | some high => n ≤ high
    | none => true)

/-- Why a list of positions makes no sense. -/
inductive SpanMistake where
  | zero
  | decreasing
  | noEndpoint
  | value (text : Octets)
  deriving Repr, DecidableEq

def Span.read (text : Octets) : Except SpanMistake Span := do
  let low := text.takeWhile Char.isDigit
  let number (digits : Octets) : Option Nat := (String.ofList digits).toNat?
  match text.drop low.length with
  | [] =>
    match number low with
    | some 0 => throw .zero
    | some n => return ⟨n, some n⟩
    | none => throw (if text.isEmpty then .zero else .value text)
  | '-' :: high =>
    if !high.all Char.isDigit then throw (.value high)
    match number low, number high with
    | none, none => throw .noEndpoint
    | some 0, _ => throw .zero
    | some m, none => return ⟨m, none⟩
    | none, some n => if n = 0 then throw .decreasing else return ⟨1, some n⟩
    | some m, some n => if n < m then throw .decreasing else return ⟨m, some n⟩
  | _ => throw (.value text)

/-- Runs of neighbours among positions that are chosen. -/
def chosenParts {α : Type} (spans : List Span) (items : List α) : List α :=
  (items.zipIdx 1).filterMap fun (item, n) => if spans.any (·.contains n) then some item else none

/-- Show columns of lines. -/
def cutColumns : Tool := fun _ =>
  withTable
    { flags := "sn\x01", valued := "bcdf\x02"
      long := [("bytes", 'b'), ("characters", 'c'), ("delimiter", 'd'), ("fields", 'f'),
        ("only-delimited", 's'), ("complement", '\x01'), ("output-delimiter", '\x02')] } 1
    fun call => do
      let mistake (message : Octets) : Act Nat := do
        complainOfWords call.name message
        return 1
      match call.last? ['b', 'c', 'f'] with
      | none => mistake (ascii "you must specify a list of bytes, characters, or fields")
      | some kind =>
        if kind != 'f' && (call.has 'd') then
          mistake (ascii "an input delimiter may be specified only when operating on fields")
        else if kind != 'f' && (call.has 's') then
          mistake (ascii ("suppressing non-delimited lines makes sense\n" ++
            "\tonly when operating on fields"))
        else if ((call.value? 'd').getD ['\t']).length != 1 then
          mistake (ascii "the delimiter must be a single character")
        else
          let text := (call.value? kind).getD []
          let parts := Text.splitAtChar ',' (text.map fun c => if c = ' ' then ',' else c)
          match parts.mapM Span.read with
          | .error problem =>
            mistake <| match problem with
              | .zero => ascii (if kind = 'f' then "fields are numbered from 1"
                  else "byte/character positions are numbered from 1")
              | .decreasing => ascii "invalid decreasing range"
              | .noEndpoint => ascii "invalid range with no endpoint: -"
              | .value text => ascii (if kind = 'f' then "invalid field value "
                  else "invalid byte/character position ") ++ inMarks text
          | .ok spans =>
            let mark := ((call.value? 'd').getD ['\t']).headD '\t'
            let between := (call.value? '\x02').getD [mark]
            let choose {α : Type} (items : List α) : List α :=
              if call.has '\x01' then
                (items.zipIdx 1).filterMap fun (item, n) =>
                  if spans.any (·.contains n) then none else some item
              else chosenParts spans items
            let change (line : Octets) : Option Octets :=
              if kind != 'f' then some (choose line)
              else if line.contains mark then
                some (between.intercalate (choose (Text.splitAtChar mark line)))
              else if call.has 's' then none else some line
            let mut status := 0
            for path in call.inputs do
              match ← readOperand path with
              | .ok bytes =>
                print ((Text.lineList bytes).filterMap change |>.flatMap (· ++ ['\n']))
              | .error cause =>
                complainOfFile call.name path cause
                status := 1
            return status

end AsmLayout.Host
