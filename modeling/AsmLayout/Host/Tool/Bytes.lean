import AsmLayout.Host.Shell.Arithmetic
import AsmLayout.Host.Tool

/-! # Tools that work on bytes -/

namespace AsmLayout.Host

open Text (Octets)

/-- How units of bytes are shown. -/
inductive UnitStyle where
  | octal
  | signed
  | natural
  | hexadecimal
  | characters
  | names
  deriving Repr, DecidableEq

/-- A way to show bytes: in units of so many, perhaps with the characters behind them. -/
structure DumpFormat where
  style : UnitStyle
  size : Nat
  texts : Bool := false
  deriving Repr, DecidableEq

namespace DumpFormat

/-- The number of bytes in the order in which the last one weighs most. -/
def valueOf (bytes : Octets) : Nat :=
  bytes.foldr (fun c n => n * 256 + c.toNat) 0

/-- How many digits the greatest value of so many bytes has in a base. -/
def digitsOf (base size : Nat) : Nat :=
  (Nat.toDigits base ((1 <<< (8 * size)) - 1)).length

def width (format : DumpFormat) : Nat :=
  match format.style with
  | .octal => digitsOf 8 format.size
  | .hexadecimal => 2 * format.size
  | .natural => digitsOf 10 format.size
  | .signed => (Nat.toDigits 10 (1 <<< (8 * format.size - 1))).length + 1
  | .characters | .names => 3

/-- The names of the first bytes. -/
def controlNames : List String :=
  ["nul", "soh", "stx", "etx", "eot", "enq", "ack", "bel", "bs", "ht", "nl", "vt", "ff", "cr", "so",
   "si", "dle", "dc1", "dc2", "dc3", "dc4", "nak", "syn", "etb", "can", "em", "sub", "esc", "fs",
   "gs", "rs", "us", "sp"]

def unitText (format : DumpFormat) (bytes : Octets) : Octets :=
  let n := valueOf bytes
  let filled (base : Nat) : Octets :=
    let digits := Nat.toDigits base n
    List.replicate (format.width - digits.length) '0' ++ digits
  match format.style with
  | .octal => filled 8
  | .hexadecimal => filled 16
  | .natural => Text.decimal n
  | .signed =>
    let bound := 1 <<< (8 * format.size)
    if 2 * n < bound then Text.decimal n else '-' :: Text.decimal (bound - n)
  | .names =>
    let n := n % 128
    if n = 127 then ascii "del"
    else if n ≤ 32 then ascii (controlNames.getD n "") else [Char.ofNat n]
  | .characters =>
    if n = 0 then ['\\', '0']
    else if 7 ≤ n && n ≤ 13 then ['\\', "abtnvfr".toList.getD (n - 7) 'a']
    else if n < 32 || 127 ≤ n then
      [Char.ofNat (48 + n / 64), Char.ofNat (48 + n / 8 % 8), Char.ofNat (48 + n % 8)]
    else [Char.ofNat n]

/-- The units of a row, with blanks so that they stand under those of other formats. -/
def unitsText (format : DumpFormat) (fields : Nat) : (left pad : Nat) → List Octets → Octets
  | _, _, [] => []
  | 0, _, _ => []
  | left + 1, pad, unit :: units =>
    let next := (pad * left) / (left + 1)
    alignRight (format.width + (pad - next)) (format.unitText unit) ++
      format.unitsText fields left next units

end DumpFormat

def groupBytes (size : Nat) : (fuel : Nat) → Octets → List Octets
  | 0, _ | _, [] => []
  | fuel + 1, bytes => bytes.take size :: groupBytes size fuel (bytes.drop size)

/-- The formats that a word asks for, or what is wrong with it. -/
def dumpFormats (word : Octets) : (fuel : Nat) → Octets → Except Octets (List DumpFormat)
  | 0, _ | _, [] => .ok []
  | fuel + 1, c :: rest => do
    let sized (style : UnitStyle) : Except Octets (DumpFormat × Octets) :=
      match rest with
      | 'C' :: rest => .ok (⟨style, 1, false⟩, rest)
      | 'S' :: rest => .ok (⟨style, 2, false⟩, rest)
      | 'I' :: rest => .ok (⟨style, 4, false⟩, rest)
      | 'L' :: rest => .ok (⟨style, 8, false⟩, rest)
      | rest =>
        let digits := rest.takeWhile Char.isDigit
        if digits.isEmpty then .ok (⟨style, 4, false⟩, rest)
        else
          let (n, _) := Arithmetic.digits 10 digits
          if [1, 2, 4, 8].contains n then .ok (⟨style, n, false⟩, rest.drop digits.length)
          else .error (ascii "invalid type string " ++ inMarks word ++
            ascii (";\nthis system doesn't provide a " ++ toString n ++ "-byte integral type"))
    let (format, rest) ← match c with
      | 'a' => .ok ((⟨.names, 1, false⟩ : DumpFormat), rest)
      | 'c' => .ok (⟨.characters, 1, false⟩, rest)
      | 'd' => sized .signed
      | 'o' => sized .octal
      | 'u' => sized .natural
      | 'x' => sized .hexadecimal
      | c => .error (ascii "invalid character '" ++ [c] ++ ascii "' in type string " ++ inMarks word)
    match rest with
    | 'z' :: rest => return { format with texts := true } :: (← dumpFormats word fuel rest)
    | rest => return format :: (← dumpFormats word fuel rest)

def letterFormat? (letter : Char) : Option DumpFormat :=
  match letter with
  | 'a' => some ⟨.names, 1, false⟩
  | 'b' => some ⟨.octal, 1, false⟩
  | 'c' => some ⟨.characters, 1, false⟩
  | 'd' => some ⟨.natural, 2, false⟩
  | 'o' => some ⟨.octal, 2, false⟩
  | 'x' | 'h' => some ⟨.hexadecimal, 2, false⟩
  | 's' => some ⟨.signed, 2, false⟩
  | 'i' => some ⟨.signed, 4, false⟩
  | 'l' => some ⟨.signed, 8, false⟩
  | _ => none

def addressText (radix : Char) (n : Nat) : Octets :=
  let filled (base width : Nat) : Octets :=
    let digits := Nat.toDigits base n
    List.replicate (width - digits.length) '0' ++ digits
  match radix with
  | 'd' => filled 10 7
  | 'x' => filled 16 6
  | 'n' => []
  | _ => filled 8 7

def rowText (formats : List DumpFormat) (perRow : Nat) (address row : Octets) : Octets :=
  let fieldsOf (format : DumpFormat) : Nat := perRow / format.size
  let whole := (formats.map fun format => (format.width + 1) * fieldsOf format).foldl max 0
  let lines := formats.zipIdx.map fun (format, n) =>
    let fields := fieldsOf format
    let pad := whole - format.width * fields
    let padded := row ++ List.replicate ((format.size - row.length % format.size) % format.size) '\x00'
    let units := groupBytes format.size padded.length padded
    let front := if n = 0 then address else List.replicate address.length ' '
    let text := format.unitsText fields fields pad units
    let shown := row.map fun c => if c.toNat < 32 || 127 ≤ c.toNat then '.' else c
    front ++ text ++
      (if format.texts then
        List.replicate (whole - text.length) ' ' ++ ascii "  >" ++ shown ++ ['<'] else []) ++ ['\n']
  lines.flatten

/-- The rows of a dump. Rows that repeat the one before are left out. -/
def rowsText (formats : List DumpFormat) (perRow : Nat) (radix : Char) (all : Bool) :
    (position : Nat) → (last : Option Octets) → (skipping : Bool) → List Octets → Octets
  | _, _, _, [] => []
  | position, last, skipping, row :: rows =>
    let repeats := !all && last = some row && row.length = perRow
    let text := if !repeats then rowText formats perRow (addressText radix position) row
      else if skipping then [] else ['*', '\n']
    text ++ rowsText formats perRow radix all (position + row.length) (some row) repeats rows

/-- Show the bytes of files. -/
def dumpBytes : Tool := fun _ =>
  withTable
    { flags := "abcdosxhilv", valued := "tANjw"
      long := [("format", 't'), ("address-radix", 'A'), ("read-bytes", 'N'), ("skip-bytes", 'j'),
        ("output-duplicates", 'v'), ("width", 'w')] } 1
    fun call => do
      let found : Except Octets (List DumpFormat) := call.options.foldlM (fun formats option => do
        if option.1 = 't' then
          return formats ++ (← dumpFormats option.2 (option.2.length + 1) option.2)
        return formats ++ (letterFormat? option.1).toList) []
      match found with
      | .error message =>
        complainAs call.name message
        return 1
      | .ok formats =>
        let formats : List DumpFormat := if formats.isEmpty then [⟨.octal, 2, false⟩] else formats
        let radix := ((call.value? 'A').getD ['o']).headD 'o'
        if !"doxn".toList.contains radix then
          complainAs call.name (ascii "invalid output address radix '" ++ [radix] ++
            ascii "'; it must be one character from [doxn]")
          return 1
        for letter in ['j', 'N', 'w'] do
          match call.value? letter with
          | some text =>
            if (sizeOf? text).isNone then
              complainAs call.name (ascii "invalid -" ++ letter :: ascii " argument " ++ inMarks text)
              return 1
          | none => pure ()
        let skipped := ((call.value? 'j').bind sizeOf?).getD 0
        let perRow := ((call.value? 'w').bind sizeOf?).getD 16
        let (texts, good) ← readAllOperands call.name call.inputs
        let whole := texts.flatten
        let bytes := whole.drop skipped
        if whole.length < skipped then
          complainAs call.name (ascii "cannot skip past end of combined input")
          return 1
        let bytes := match (call.value? 'N').bind sizeOf? with
          | some n => bytes.take n
          | none => bytes
        if texts.isEmpty && !good then return 1
        print (rowsText formats perRow radix (call.has 'v') skipped none false
          (groupBytes perRow bytes.length bytes))
        if radix != 'n' then print (addressText radix (skipped + bytes.length) ++ ['\n'])
        return if good then 0 else 1

def sixBitAlphabet : Octets :=
  "ABCDEFGHIJKLMNOPQRSTUVWXYZabcdefghijklmnopqrstuvwxyz0123456789+/".toList

/-- Bytes as characters that stand for six bits each. -/
def encodeBits : Octets → Octets
  | a :: b :: c :: rest => letters a b c ++ encodeBits rest
  | [a, b] => (letters a b '\x00').take 3 ++ ['=']
  | [a] => (letters a '\x00' '\x00').take 2 ++ ['=', '=']
  | [] => []
where
  /-- Three bytes as four characters. -/
  letters (a b c : Char) : Octets :=
    let n := a.toNat * 65536 + b.toNat * 256 + c.toNat
    [n / 262144, n / 4096 % 64, n / 64 % 64, n % 64].map fun i => sixBitAlphabet.getD i 'A'

/-- The bytes of characters that stand for six bits each, and whether all make sense. -/
def decodeBits : (fuel : Nat) → Octets → Octets × Bool
  | 0, _ | _, [] => ([], true)
  | fuel + 1, text =>
    let group := text.take 4
    let letters := group.takeWhile (· != '=')
    let digits := (letters.takeWhile sixBitAlphabet.contains).filterMap fun c => sixBitAlphabet.idxOf? c
    let n := (digits ++ List.replicate (4 - digits.length) 0).foldl (fun n d => n * 64 + d) 0
    let bytes := [n / 65536, n / 256 % 256, n % 256].map Char.ofNat
    let sound := digits.length = letters.length && group.length = 4 && 2 ≤ letters.length &&
      (group.drop letters.length).all (· == '=')
    if !sound then (bytes.take (digits.length - 1), false)
    else if letters.length < 4 then (bytes.take (letters.length - 1), (text.drop 4).isEmpty)
    else
      let (others, good) := decodeBits fuel (text.drop 4)
      (bytes ++ others, good)

/-- Show bytes as characters that stand for six bits each, or the other way round. -/
def convertBits : Tool := fun _ =>
  withTable
    { flags := "di", valued := "w"
      long := [("decode", 'd'), ("ignore-garbage", 'i'), ("wrap", 'w')] } 1
    fun call => do
      match call.operands with
      | _ :: extra :: _ =>
        complainOfWords call.name (ascii "extra operand " ++ inMarks extra)
        return 1
      | operands =>
        let path := operands.headD ['-']
        match ← readOperand path with
        | .error cause =>
          complainAs call.name ((if cause = .isADirectory then ascii "read error"
            else fileName path) ++ ascii (": " ++ cause.wording))
          return 1
        | .ok bytes =>
          if call.has 'd' then
            let text := bytes.filter fun c => c != '\n' &&
              (!call.has 'i' || sixBitAlphabet.contains c || c == '=')
            let (decoded, good) := decodeBits (text.length + 1) text
            print decoded
            if !good then complainAs call.name (ascii "invalid input")
            return if good then 0 else 1
          else
            if let some wrong := (call.value? 'w').filter fun text => (sizeOf? text).isNone then
              complainAs call.name (ascii "invalid wrap size: " ++ inMarks wrong)
              return 1
            let width := ((call.value? 'w').bind sizeOf?).getD 76
            let text := encodeBits bytes
            if width = 0 then print text
            else
              print ((groupBytes width text.length text).flatMap fun line => line ++ ['\n'])
            return 0

/-- The size that a word asks for, given the present one. -/
def wantedSize? (now : Nat) (word : Octets) : Option Nat :=
  match word with
  | '+' :: rest => (sizeOf? rest).map (now + ·)
  | '-' :: rest => (sizeOf? rest).map (now - ·)
  | '<' :: rest => (sizeOf? rest).map (min now)
  | '>' :: rest => (sizeOf? rest).map (max now)
  | '/' :: rest => (sizeOf? rest).map fun n => now / max n 1 * max n 1
  | '%' :: rest => (sizeOf? rest).map fun n => (now + max n 1 - 1) / max n 1 * max n 1
  | word => sizeOf? word

/-- Give files a size. -/
def resizeFiles : Tool := fun _ =>
  withTable
    { flags := "co", valued := "sr"
      long := [("size", 's'), ("reference", 'r'), ("no-create", 'c')] } 1
    fun call => do
      match call.value? 's', call.value? 'r' with
      | none, none =>
        complainOfWords call.name (ascii "you must specify either '--size' or '--reference'")
        return 1
      | size, reference =>
        let sizeOf (path : Octets) : Act Nat :=
          return ((← readFile path).toOption.map List.length).getD 0
        let base ← match reference with
          | some path => some <$> sizeOf path
          | none => pure none
        match size with
        | some word =>
          if (wantedSize? 0 word).isNone then
            complainAs call.name (ascii "Invalid number: " ++ inMarks word)
            return 1
        | none => pure ()
        if call.operands.isEmpty then
          complainOfWords call.name (ascii "missing file operand")
          return 1
        let mut status := 0
        for path in call.operands do
          let isThere := (← nodeAt path).toOption.isSome
          if !isThere && call.has 'c' then continue
          let now := base.getD (← sizeOf path)
          let wanted := match size with
            | some word => (wantedSize? now word).getD now
            | none => now
          let bytes := ((← readFile path).toOption.getD []).take wanted
          match ← openPath path .writing with
          | .ok stream =>
            discard (writeStream stream
              (Text.arrayOf (bytes ++ List.replicate (wanted - bytes.length) '\x00')))
          | .error cause =>
            complainAs call.name (ascii "cannot open " ++ inQuotes path ++
              ascii (" for writing: " ++ cause.wording))
            status := 1
        return status

/-- What a tool that copies blocks is asked for, by name. -/
def blockNames : List String :=
  ["bs", "cbs", "conv", "count", "ibs", "if", "iflag", "iseek", "obs", "of", "oflag", "oseek", "seek",
   "skip", "status"]

/-- How many blocks there are and how many bytes are left over. -/
def recordsText (count rest : Nat) (what : String) : Octets :=
  ascii s!"{count}+{if rest = 0 then 0 else 1} records {what}\n"

/-- Open a path, or take what a descriptor stands for if there is none. -/
def openedOr (descriptor : Nat) (opening : Opening) (path? : Option Octets) :
    Act (Except (Octets × IoError) (Option Nat)) := do
  match path? with
  | some path =>
    match ← openPath path opening with
    | .ok stream => return .ok (some stream)
    | .error cause => return .error (path, cause)
  | none => return .ok (← streamOf? descriptor)

def copyBlocks : Tool := fun _ name words => do
  let settings := words.map fun word =>
    let key := word.takeWhile (· != '=')
    (String.ofList key, word.drop (key.length + 1), word)
  match settings.find? fun (key, _, word) => !word.contains '=' || !blockNames.contains key with
  | some (_, _, word) =>
    complainOfWords name (ascii "unrecognized operand " ++ inMarks word)
    return .exited 1
  | none =>
    let value? (key : String) : Option Octets :=
      (settings.reverse.find? fun setting => setting.1 = key).map (·.2.1)
    let numbers := ["bs", "cbs", "count", "ibs", "iseek", "obs", "oseek", "seek", "skip"]
    let wrong (key : String) (text : Octets) : Bool :=
      match sizeOf? text with
      | none => true
      | some n => n = 0 && ["bs", "ibs", "obs", "cbs"].contains key
    match settings.find? fun (key, text, _) => numbers.contains key && wrong key text with
    | some (_, text, _) =>
      complainAs name (ascii "invalid number: " ++ inMarks text)
      return .exited 1
    | none =>
      let number (key : String) (usual : Nat) : Nat := ((value? key).bind sizeOf?).getD usual
      let level := String.ofList ((value? "status").getD [])
      if !(["", "none", "noxfer", "progress"].contains level) then
        complainOfWords name (ascii "invalid status level: " ++ inMarks level.toList)
        return .exited 1
      let block := number "bs" 0
      let inputBlock := max 1 (if block = 0 then number "ibs" 512 else block)
      let outputBlock := max 1 (if block = 0 then number "obs" 512 else block)
      let conversions := Text.splitAtChar ',' ((value? "conv").getD [])
      let source ← openedOr 0 .reading (value? "if")
      match source with
      | .error (path, cause) =>
        complainAs name (ascii "failed to open " ++ inQuotes path ++ ascii (": " ++ cause.wording))
        return .exited 1
      | .ok source =>
        let seek := number "seek" (number "oseek" 0) * outputBlock
        let keeps := conversions.contains (ascii "notrunc")
        let old ← match value? "of" with
          | some path => pure (((← readFile path).toOption).getD [])
          | none => pure []
        let target ← openedOr 1 (if keeps then .both else .writing) (value? "of")
        match target with
        | .error (path, cause) =>
          complainAs name (ascii "failed to open " ++ inQuotes path ++
            ascii (": " ++ cause.wording))
          return .exited 1
        | .ok target =>
          let skip := number "skip" (number "iseek" 0) * inputBlock
          let limit := (value? "count").bind sizeOf? |>.map (· * inputBlock)
          let read ← match source with
            | some stream => takeBytes stream (limit.map (· + skip))
            | none => pure (.error .badDescriptor)
          let bytes := ((read.toOption.map Text.octetsOfArray).getD []).drop skip
          match read with
          | .ok _ => pure ()
          | .error cause =>
            complainAs name (ascii "error reading " ++
              inQuotes ((value? "if").getD (ascii "standard input")) ++
              ascii (": " ++ cause.wording))
          let bytes := if conversions.contains (ascii "ucase") then bytes.map Char.toUpper
            else if conversions.contains (ascii "lcase") then bytes.map Char.toLower else bytes
          let written ← match target, value? "of" with
            | some stream, some _ =>
              let kept := if keeps then old else old.take seek
              let front := kept.take seek ++ List.replicate (seek - kept.length) '\x00'
              writeStream stream (Text.arrayOf (front ++ bytes))
            | some stream, none => writeStream stream (Text.arrayOf bytes)
            | none, _ => pure (.error .badDescriptor)
          match written with
          | .error cause =>
            complainAs name (ascii "error writing " ++
              inQuotes ((value? "of").getD (ascii "standard output")) ++
              ascii (": " ++ cause.wording))
          | .ok () => pure ()
          let outputUnit := if block = 0 then outputBlock else inputBlock
          if level != "none" then
            let report := recordsText (bytes.length / inputBlock) (bytes.length % inputBlock) "in" ++
              recordsText (bytes.length / outputUnit) (bytes.length % outputUnit) "out"
            let total := if level = "noxfer" then []
              else ascii s!"{bytes.length} bytes copied, 0 s, 0.0 kB/s\n"
            discard (write 2 (report ++ total))
          match read, written with
          | .ok _, .ok () => return .exited 0
          | _, _ => return .exited 1

end AsmLayout.Host
