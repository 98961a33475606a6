import AsmLayout.Text.Inspect

/-! # Journals

A journal lists what a run reports as it goes. Every entry has a level and the module that reports it.
-/

namespace AsmLayout

namespace Journal

inductive Level where
  | debug
  | info
  | warn
  | error
  deriving Repr, DecidableEq

namespace Level

def name : Level → String
  | debug => "DEBUG"
  | info => "INFO"
  | warn => "WARN"
  | error => "ERROR"

def weight : Level → Nat
  | debug => 0
  | info => 1
  | warn => 2
  | error => 3

end Level

structure Entry where
  level : Level
  /-- The module that reports. -/
  module : String
  message : String
  deriving Repr, DecidableEq

/-- How a character of a message is written: those that could steer a terminal as their number, all
    others as they are. -/
def visibleChar (c : Char) : List Char :=
  let n := c.toNat
  if n = 0x07 || n = 0x08 || n = 0x0C || n = 0x1B || n = 0x7F then
    ['\\', 'x'] ++ Text.hexDigits 2 n
  else if 0x80 ≤ n && n ≤ 0x9F then ['\\', 'u', '\x7b'] ++ Text.hexDigits 2 n ++ ['\x7d']
  else [c]

def Entry.line (entry : Entry) : String :=
  Text.padLeft 5 entry.level.name ++ " " ++ entry.module ++ ": " ++
    String.ofList (entry.message.toList.flatMap visibleChar) ++ "\n"

/-- The entries of at least some level as lines. Without a level there are none. -/
def render (threshold : Option Level) (entries : List Entry) : String :=
  match threshold with
  | none => ""
  | some least =>
    String.join ((entries.filter fun entry => least.weight ≤ entry.level.weight).map Entry.line)

end Journal

end AsmLayout
