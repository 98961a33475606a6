import AsmLayout.Host.Tool.Files

/-! # The tool that cuts a file into pieces

Pieces go to files whose names count up. Where the length of what counts up is not given, it grows before it
runs out.
-/

namespace AsmLayout.Host

open Text (Octets)

inductive Slicing where
  | byLines (count : Nat)
  | byBytes (count : Nat)
  /-- Whole lines as far as they fit, longer ones cut. -/
  | byLinesWithin (count : Nat)
  | intoParts (count : Nat)
  /-- Whole lines, each to the part in which it starts. -/
  | linesIntoParts (count : Nat)
  /-- Whole lines, to one part after the other. -/
  | inTurns (count : Nat)
  deriving Repr, DecidableEq

/-- Lines in groups that are no longer than a limit, with lines beyond it cut. -/
def packLines (limit : Nat) : (fuel : Nat) → (current : Octets) → List Octets → List Octets
  | 0, _, _ => []
  | _, current, [] => if current.isEmpty then [] else [current]
  | fuel + 1, current, line :: lines =>
    if current.length + line.length ≤ limit then packLines limit fuel (current ++ line) lines
    else if current.isEmpty then
      line.take limit :: packLines limit fuel [] (line.drop limit :: lines)
    else current :: packLines limit fuel [] (line :: lines)

/-- Where a part starts if a length is cut into parts as long as each other, the first ones longer by one
    where that does not come out even. -/
def partStart (count length n : Nat) : Nat :=
  n * (length / count) + min n (length % count)

/-- Lines with the positions where they start. -/
def withStarts : (position : Nat) → List Octets → List (Octets × Nat)
  | _, [] => []
  | position, line :: lines => (line, position) :: withStarts (position + line.length) lines

def Slicing.pieces (slicing : Slicing) (text : Octets) : List Octets :=
  match slicing with
  | .byLines count => (groupsOf count (text.length + 1) (cutLines text)).map List.flatten
  | .byBytes count => groupsOf count (text.length + 1) text
  | .byLinesWithin count => packLines count (2 * text.length + 2) [] (cutLines text)
  | .intoParts count =>
    (List.range count).map fun n =>
      (text.take (partStart count text.length (n + 1))).drop (partStart count text.length n)
  | .linesIntoParts count =>
    let lines := withStarts 0 (cutLines text)
    (List.range count).map fun n =>
      (lines.filter fun (_, start) =>
        partStart count text.length n ≤ start && start < partStart count text.length (n + 1)).flatMap (·.1)
  | .inTurns count =>
    let lines := (cutLines text).zipIdx
    (List.range count).map fun n => (lines.filter fun (_, m) => m % count = n).flatMap (·.1)

/-- A number in digits of an alphabet, with at least so many of them. -/
def inAlphabet (alphabet : List Char) : (length : Nat) → (n : Nat) → Octets
  | 0, _ => []
  | length + 1, n =>
    inAlphabet alphabet length (n / alphabet.length) ++ [alphabet.getD (n % alphabet.length) 'a']

/-- What counts up at the end of a name, where its length grows: the last digit in front says that there are
    more behind. -/
def growingSuffix (alphabet : List Char) : (fuel : Nat) → (length : Nat) → (n : Nat) → Octets
  | 0, length, n => inAlphabet alphabet length n
  | fuel + 1, length, n =>
    let room := (alphabet.length - 1) * (List.replicate (length - 1) alphabet.length).foldl (· * ·) 1
    if n < room then inAlphabet alphabet length n
    else alphabet.getLastD 'z' :: growingSuffix alphabet fuel (length + 1) (n - room)

/-- How the wishes of a call cut, or what is wrong with them: a message, and whether to say where to read
    about it. -/
def slicingOf (call : Call) : Except (Octets × Bool) Slicing := do
  let wishes := call.options.filter fun option => "lbCn".toList.contains option.1
  match wishes with
  | [] => return .byLines 1000
  | [(letter, text)] =>
    let what := match letter with
      | 'l' => "lines"
      | 'n' => "chunks"
      | _ => "bytes"
    let (manner, number) := match letter, text with
      | 'n', 'l' :: '/' :: number => ('l', number)
      | 'n', 'r' :: '/' :: number => ('r', number)
      | _, number => (' ', number)
    let isPlain := letter = 'l' || letter = 'n'
    let count? := if isPlain then (String.ofList number).toNat? else sizeOf? number
    match count? with
    | none | some 0 => throw (ascii s!"invalid number of {what}: " ++ inMarks number, false)
    | some count =>
      return match letter, manner with
        | 'l', _ => .byLines count
        | 'n', 'l' => .linesIntoParts count
        | 'n', 'r' => .inTurns count
        | 'n', _ => .intoParts count
        | 'C', _ => .byLinesWithin count
        | _, _ => .byBytes count
  | _ => throw (ascii "cannot split in more than one way", true)

def withLineOption (words : List Octets) : List Octets :=
  words.map fun word => match word with
    | '-' :: c :: rest => if (c :: rest).all Char.isDigit then '-' :: 'l' :: c :: rest else word
    | _ => word

/-- Slicing a file into pieces. -/
def cutFile : Tool := fun _ name words =>
  withTable
    { flags := "dxeuV", valued := "abClns", optional := "dx"
      long := [("suffix-length", 'a'), ("bytes", 'b'), ("line-bytes", 'C'), ("lines", 'l'),
        ("number", 'n'), ("numeric-suffixes", 'd'), ("hex-suffixes", 'x'), ("elide-empty-files", 'e'),
        ("unbuffered", 'u'), ("verbose", 'V'), ("additional-suffix", 's')] } 1
    (fun call => do
      match slicingOf call with
      | .error (message, advise) =>
        if advise then complainOfWords call.name message else complainAs call.name message
        return 1
      | .ok slicing =>
        let length? : Option Nat := (call.value? 'a').bind fun text => (String.ofList text).toNat?
        if let some text := call.value? 'a' then
          if length?.isNone then
            complainAs call.name (ascii "invalid suffix length: " ++ inMarks text)
            return 1
        if let extra :: _ := call.operands.drop 2 then
          complainOfWords call.name (ascii "extra operand " ++ inMarks extra)
          return 1
        let path := call.operands.headD ['-']
        let front := (call.operands[1]?).getD ['x']
        match ← readOperand path with
        | .error .isADirectory =>
          complainAs call.name (path ++ ascii ": Is a directory")
          return 1
        | .error cause =>
          complainAs call.name (ascii "cannot open " ++ inQuotes path ++
            ascii (" for reading: " ++ cause.wording))
          return 1
        | .ok text =>
          let digits := "0123456789abcdef".toList
          let alphabet := match call.last? ['d', 'x'] with
            | some 'd' => digits.take 10
            | some _ => digits
            | none => "abcdefghijklmnopqrstuvwxyz".toList
          let counted := (call.value? 'd').orElse fun _ => call.value? 'x'
          let start? := counted.bind fun text => (String.ofList text).toNat?
          let fixed? : Option Nat := match length?, start? with
            | some 0, none | none, none => none
            | length?, _ => some (length?.getD 2)
          let pieces := (slicing.pieces text).filter fun piece => !call.has 'e' || !piece.isEmpty
          for (piece, n) in pieces.zipIdx (start?.getD 0) do
            let suffix? : Option Octets := match fixed? with
              | none => some (growingSuffix alphabet (n + 1) 2 n)
              | some length =>
                let room := (List.replicate length alphabet.length).foldl (· * ·) 1
                if n < room then some (inAlphabet alphabet length n) else none
            match suffix? with
            | none =>
              complainAs call.name (ascii "output file suffixes exhausted")
              return 1
            | some suffix =>
              let target := front ++ suffix ++ (call.value? 's').getD []
              if call.has 'V' then print (ascii "creating file " ++ inQuotes target ++ ['\n'])
              match ← openPath target .writing with
              | .error cause =>
                complainAs call.name (target ++ ascii (": " ++ cause.wording))
                return 1
              | .ok stream => discard (writeStream stream (Text.arrayOf piece))
          return 0)
    name (withLineOption words)

end AsmLayout.Host
