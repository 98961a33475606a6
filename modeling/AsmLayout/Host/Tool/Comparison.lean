import AsmLayout.Host.Tool.Files

/-! # Tools that compare files -/

namespace AsmLayout.Host

open Text (Octets)

/-- The first place where texts differ: the position, the line and both bytes, or how long the shorter
    one is. -/
def firstDifference : (position line : Nat) → Octets → Octets → Option (Nat × Nat × Option (Char × Char))
  | _, _, [], [] => none
  | position, line, a :: as, b :: bs =>
    if a = b then firstDifference (position + 1) (if a = '\n' then line + 1 else line) as bs
    else some (position, line, some (a, b))
  | position, line, _, _ => some (position, line, none)

/-- A byte as it can be shown. -/
def visibleByte (c : Char) : Octets :=
  let plain (n : Nat) : Octets :=
    if n < 32 then ['^', Char.ofNat (n + 64)]
    else if n = 127 then ['^', '?'] else [Char.ofNat n]
  if c.toNat < 128 then plain c.toNat else ['M', '-'] ++ plain (c.toNat - 128)

def compareFiles : Tool := fun _ =>
  withTable
    { flags := "slb", valued := "in"
      long := [("silent", 's'), ("quiet", 's'), ("verbose", 'l'), ("bytes", 'n')]
      signed := true } 2
    fun call => do
      match call.operands with
      | [] =>
        complainOfWords call.name (ascii "missing operand after " ++ inMarks call.name) true
        return 2
      | first :: others =>
        let second := others.headD ['-']
        for path in [first, second] do
          if path != ['-'] then
            match ← nodeAt path with
            | .ok _ => pure ()
            | .error cause =>
              if !call.has 's' then complainAs call.name (path ++ ascii (": " ++ cause.wording))
              return 2
        match ← readOperand first, ← readOperand second with
        | .error cause, _ =>
          if !call.has 's' then complainAs call.name (first ++ ascii (": " ++ cause.wording))
          return 2
        | _, .error cause =>
          if !call.has 's' then complainAs call.name (second ++ ascii (": " ++ cause.wording))
          return 2
        | .ok one, .ok two =>
          let limit := ((call.value? 'n').bind sizeOf?).getD (max one.length two.length)
          let one := one.take limit
          let two := two.take limit
          let shown (c : Char) : Octets :=
            alignRight 3 (Nat.toDigits 8 c.toNat) ++ (if call.has 'b' then ' ' :: visibleByte c else [])
          let difference? := firstDifference 1 1 one two
          if let some (position, _, none) := difference? then
            if call.has 'l' then
              complainAs call.name (ascii "EOF on " ++
                (if one.length < two.length then first else second) ++
                (if position = 1 then ascii " which is empty" else ascii s!" after byte {position - 1}"))
              return 1
          if call.has 'l' && one.length != two.length then
            complainAs call.name (ascii "EOF on " ++
              (if one.length < two.length then first else second) ++
              ascii s!" after byte {min one.length two.length}")
          if call.has 'l' then
            let width := (Text.decimal (min one.length two.length)).length
            for (a, b, position) in one.zip (two.zipIdx 1) do
              if a != b then
                print (alignRight width (Text.decimal position) ++ ' ' :: shown a ++ ' ' :: shown b ++
                  ['\n'])
          match difference? with
          | none => return 0
          | some (position, line, some (a, b)) =>
            if call.has 's' || call.has 'l' then pure ()
            else if call.has 'b' then
              print (first ++ [' '] ++ second ++
                ascii s!" differ: byte {position}, line {line} is " ++ shown a ++ ' ' :: shown b ++
                ['\n'])
            else
              print (first ++ [' '] ++ second ++
                ascii s!" differ: char {position}, line {line}\n")
            return 1
          | some (position, line, none) =>
            let (shorter, text) := if one.length < two.length then (first, one) else (second, two)
            if !call.has 's' then
              complainAs call.name (ascii "EOF on " ++ shorter ++
                (if text.isEmpty then ascii " which is empty"
                 else if text.getLast? = some '\n' then
                  ascii s!" after byte {position - 1}, line {line - 1}"
                 else ascii s!" after byte {position - 1}, in line {line}"))
            return 1

end AsmLayout.Host
