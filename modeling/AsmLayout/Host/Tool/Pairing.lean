import AsmLayout.Host.Tool.Sorting

/-! # The tool that pairs the lines of two sorted files

Of two files whose lines are in order, each line is in the first one, in the second one or in both. Whether
the lines are in order is only looked at once a line has no partner, unless it is asked for.
-/

namespace AsmLayout.Host

open Text (Octets)

structure SortedSide where
  lines : List Octets
  /-- The last two lines that have been passed, the later one first. -/
  passed : List Octets := []
  /-- That the lines are not in order has been told. -/
  told : Bool := false
  deriving Repr, DecidableEq

namespace SortedSide

def pass (side : SortedSide) : SortedSide :=
  match side.lines with
  | [] => side
  | line :: lines => { side with lines, passed := line :: side.passed.take 1 }

/-- Whether the next line comes before the last one that has been passed. At the end, whether the last one
    comes before the one in front of it. -/
def isDisordered (side : SortedSide) : Bool :=
  match side.lines, side.passed with
  | next :: _, last :: _ => compareBytes last next == .gt
  | [], last :: before :: _ => compareBytes before last == .gt
  | _, _ => false

end SortedSide

/-- Whether it is looked at if lines are in order. -/
inductive OrderCheck where
  | whenUnpaired
  | always
  | never
  deriving Repr, DecidableEq

/-- What is met when lines are paired. -/
inductive Meeting where
  | line (column : Nat) (text : Octets)
  /-- A file is found not to be in order. -/
  | disorder (file : Nat)
  deriving Repr, DecidableEq

/-- What pairing lines gives. -/
structure Paired where
  /-- What has been met, the last one first. -/
  met : List Meeting := []
  /-- Nothing more is done. -/
  stopped : Bool := false
  deriving Repr, DecidableEq

/-- Pass a line of a file and look whether the lines are in order. -/
def SortedSide.advance (check : OrderCheck) (unpaired : Bool) (number : Nat) (side : SortedSide)
    (paired : Paired) : SortedSide × Paired :=
  let side := side.pass
  let looks := check = .always || (check = .whenUnpaired && unpaired)
  if looks && !side.told && !paired.stopped && side.isDisordered then
    ({ side with told := true },
      { met := .disorder number :: paired.met, stopped := check = .always })
  else (side, paired)

def pairLines (check : OrderCheck) :
    (fuel : Nat) → (unpaired : Bool) → (first second : SortedSide) → Paired → Paired
  | 0, _, _, _, paired => paired
  | fuel + 1, unpaired, first, second, paired =>
    if paired.stopped then paired
    else
      let order? : Option Ordering := match first.lines, second.lines with
        | [], [] => none
        | [], _ => some .gt
        | _, [] => some .lt
        | a :: _, b :: _ => some (compareBytes a b)
      match order? with
      | none => paired
      | some order =>
        let unpaired := unpaired || order != .eq
        let line : Meeting := match order with
          | .lt => .line 1 (first.lines.headD [])
          | .gt => .line 2 (second.lines.headD [])
          | .eq => .line 3 (second.lines.headD [])
        let paired := { paired with met := line :: paired.met }
        let (first, paired) :=
          if order == .gt then (first, paired) else first.advance check unpaired 1 paired
        let (second, paired) :=
          if order == .lt then (second, paired) else second.advance check unpaired 2 paired
        pairLines check fuel unpaired first second paired

/-- What stands in front of the lines of a column, if they are shown. -/
def columnFront? (call : Call) (separator : Octets) (column : Nat) : Option Octets :=
  let letter (n : Nat) : Char := if n = 1 then '1' else if n = 2 then '2' else '3'
  if call.has (letter column) then none
  else
    let before := (List.range (column - 1)).filter fun n => !call.has (letter (n + 1))
    some (before.flatMap fun _ => separator)

/-- Show which lines two files have in common. -/
def showCommon : Tool := fun _ =>
  withTable
    { flags := "123zcnT", valued := "D"
      long := [("check-order", 'c'), ("nocheck-order", 'n'), ("total", 'T'), ("zero-terminated", 'z'),
        ("output-delimiter", 'D')] } 1
    fun call => do
      match call.operands with
      | [] =>
        complainOfWords call.name (ascii "missing operand")
        return 1
      | [one] =>
        complainOfWords call.name (ascii "missing operand after " ++ inMarks one)
        return 1
      | _ :: _ :: extra :: _ =>
        complainOfWords call.name (ascii "extra operand " ++ inMarks extra)
        return 1
      | [one, two] =>
        let ending := if call.has 'z' then '\x00' else '\n'
        let separator := match call.value? 'D' with
          | some [] => ['\x00']
          | some text => text
          | none => ['\t']
        let linesOf (text : Octets) : List Octets :=
          let pieces := Text.splitAtChar ending text
          if pieces.getLast? = some [] then pieces.dropLast else pieces
        match ← readOperand one with
        | .error cause =>
          complainOfFile call.name one cause
          return 1
        | .ok first =>
          match ← readOperand two with
          | .error cause =>
            complainOfFile call.name two cause
            return 1
          | .ok second =>
            let check : OrderCheck := match call.last? ['c', 'n'] with
              | some 'c' => .always
              | some _ => .never
              | none => .whenUnpaired
            let paired := pairLines check (first.length + second.length + 2) false
              { lines := linesOf first } { lines := linesOf second } {}
            let mut good := true
            let mut counts := (0, 0, 0)
            for meeting in paired.met.reverse do
              match meeting with
              | .disorder number =>
                complainAs call.name (ascii s!"file {number} is not in sorted order")
                good := false
              | .line column line =>
                let (a, b, c) := counts
                counts := if column = 1 then (a + 1, b, c) else if column = 2 then (a, b + 1, c)
                  else (a, b, c + 1)
                match columnFront? call separator column with
                | some front => print (front ++ line ++ [ending])
                | none => pure ()
            if paired.stopped then return 1
            if call.has 'T' then
              let (a, b, c) := counts
              print (separator.intercalate [Text.decimal a, Text.decimal b, Text.decimal c,
                ascii "total"] ++ [ending])
            if !good then complainAs call.name (ascii "input is not in sorted order")
            return if good then 0 else 1

end AsmLayout.Host
