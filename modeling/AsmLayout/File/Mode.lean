/-! # Permissions

The owner of a file, its group and all others may each read, write and execute it. These permissions, and
three more bits, are the mode of the file. Who looks at a file here is always its owner.
-/

namespace AsmLayout

structure Mode where
  bits : Nat
  deriving Repr, DecidableEq

namespace Mode

/-- What a file gets that is made by nobody in particular. -/
def usualFile : Mode := ⟨0o644⟩

/-- What a directory gets that is made by nobody in particular. -/
def usualDirectory : Mode := ⟨0o755⟩

def systemFile : Mode := ⟨0o444⟩

/-- What directories and programs of the system have. -/
def systemDirectory : Mode := ⟨0o555⟩

def allBits : Nat := 0o7777

def without (bits taken : Nat) : Nat :=
  bits &&& (allBits ^^^ (taken &&& allBits))

/-- A mode without the permissions of a mask. -/
def masked (mode : Mode) (mask : Nat) : Mode :=
  ⟨without mode.bits mask⟩

/-- Whether the owner may read. -/
def canRead (mode : Mode) : Bool :=
  mode.bits.testBit 8

/-- Whether the owner may write. -/
def canWrite (mode : Mode) : Bool :=
  mode.bits.testBit 7

/-- Whether the owner may execute, or look for names in a directory. -/
def canRun (mode : Mode) : Bool :=
  mode.bits.testBit 6

/-- Whether anybody may execute. -/
def isRunnable (mode : Mode) : Bool :=
  mode.bits &&& 0o111 != 0

/-- The nine permissions as letters. -/
def letters (mode : Mode) : String :=
  let has (place : Nat) : Bool := mode.bits.testBit place
  let pick (place : Nat) (letter : Char) : Char := if has place then letter else '-'
  let run (place special : Nat) (both one : Char) : Char :=
    if has special then (if has place then both else one) else pick place 'x'
  String.ofList
    [pick 8 'r', pick 7 'w', run 6 11 's' 'S', pick 5 'r', pick 4 'w', run 3 10 's' 'S', pick 2 'r',
     pick 1 'w', run 0 9 't' 'T']

/-- What a step of a change sets. -/
inductive Setting where
  | bits (value : Nat)
  /-- What the owner, the group or others have already. -/
  | same (value : Nat)
  /-- Bits, and the permission to execute where anybody has it, or for a directory. -/
  | runnable (value : Nat)
  deriving Repr, DecidableEq

structure Step where
  /-- The bits that it is about, zero if that is not said. -/
  affected : Nat
  sign : Char
  setting : Setting
  mentioned : Nat
  deriving Repr, DecidableEq

/-- The mode after a step. What is not said to be affected is limited by the mask. -/
def afterStep (mask : Nat) (isDirectory : Bool) (mode : Mode) (step : Step) : Mode :=
  let omitted := if isDirectory then without 0o6000 step.mentioned else 0
  let value := match step.setting with
    | .bits value => value
    | .same value =>
      let present := value &&& mode.bits
      let spread (bit : Nat) : Nat := if present &&& bit != 0 then bit else 0
      present ||| spread 0o444 ||| spread 0o222 ||| spread 0o111
    | .runnable value => if isDirectory || mode.isRunnable then value ||| 0o111 else value
  let limit := if step.affected = 0 then without allBits mask else step.affected
  let value := without (value &&& limit) omitted
  if step.sign = '+' then ⟨mode.bits ||| value⟩
  else if step.sign = '-' then ⟨without mode.bits value⟩
  else
    let preserved := (if step.affected = 0 then 0 else without allBits step.affected) ||| omitted
    ⟨(mode.bits &&& preserved) ||| value⟩

def afterSteps (mask : Nat) (isDirectory : Bool) (steps : List Step) (mode : Mode) : Mode :=
  steps.foldl (afterStep mask isDirectory) mode

/-- An octal number of up to four digits that counts, and what is behind it. -/
def octal? (text : List Char) : Option (Nat × List Char) :=
  let digits := text.takeWhile fun c => '0' ≤ c && c ≤ '7'
  let n := digits.foldl (fun n d => n * 8 + (d.toNat - '0'.toNat)) 0
  if digits.isEmpty || allBits < n then none else some (n, text.drop digits.length)

/-- The bits that the letters of a step stand for, and whether it is about what is executable. -/
def lettersValue (letters : List Char) : Nat × Bool :=
  letters.foldl (fun (value, runnable) c =>
    match c with
    | 'r' => (value ||| 0o444, runnable)
    | 'w' => (value ||| 0o222, runnable)
    | 'x' => (value ||| 0o111, runnable)
    | 's' => (value ||| 0o6000, runnable)
    | 't' => (value ||| 0o1000, runnable)
    | _ => (value, true)) (0, false)

/-- The steps of a change from a sign on, and what is behind them. -/
def stepsFrom (affected : Nat) : (fuel : Nat) → List Char → Option (List Step × List Char)
  | fuel + 1, sign :: rest =>
    if !"+-=".toList.contains sign then some ([], sign :: rest)
    else do
      let mention (value : Nat) : Nat := if affected = 0 then value else affected &&& value
      let (step, rest) : Step × List Char ← match rest with
        | 'u' :: rest => some (⟨affected, sign, .same 0o700, mention 0o700⟩, rest)
        | 'g' :: rest => some (⟨affected, sign, .same 0o070, mention 0o070⟩, rest)
        | 'o' :: rest => some (⟨affected, sign, .same 0o007, mention 0o007⟩, rest)
        | rest =>
          if rest.head?.any Char.isDigit then do
            let (n, behind) ← octal? rest
            if affected = 0 && (behind.isEmpty || behind.head? = some ',') then
              some (⟨allBits, sign, .bits n, allBits⟩, behind)
            else none
          else
            let letters := rest.takeWhile fun c => "rwxXst".toList.contains c
            let (value, runnable) := lettersValue letters
            some (⟨affected, sign, if runnable then .runnable value else .bits value,
              mention value⟩, rest.drop letters.length)
      let (steps, rest) ← stepsFrom affected fuel rest
      return (step :: steps, rest)
  | _, rest => some ([], rest)

def clausesFrom : (fuel : Nat) → List Char → Option (List Step)
  | 0, _ => none
  | fuel + 1, text => do
    let who := text.takeWhile fun c => "ugoa".toList.contains c
    let affected := who.foldl (fun bits c =>
      bits ||| (match c with
        | 'u' => 0o4700
        | 'g' => 0o2070
        | 'o' => 0o1007
        | _ => allBits)) 0
    let (steps, rest) ← stepsFrom affected (text.length + 1) (text.drop who.length)
    match steps, rest with
    | [], _ => none
    | steps, [] => some steps
    | steps, ',' :: rest => return steps ++ (← clausesFrom fuel rest)
    | _, _ => none

/-- The change that a text asks for. -/
def readChange? (text : List Char) : Option (List Step) :=
  if text.head?.any Char.isDigit then
    match octal? text with
    | some (n, []) =>
      let mentioned := if text.length < 5 then (n &&& 0o7000) ||| 0o777 else allBits
      some [⟨allBits, '=', .bits n, mentioned⟩]
    | _ => none
  else clausesFrom (text.length + 1) text

end Mode

end AsmLayout
