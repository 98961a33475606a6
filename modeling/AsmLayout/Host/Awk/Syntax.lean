import AsmLayout.Host.Awk.Value
import AsmLayout.Host.Regex

/-! # Programs that go through records

A program has rules. A rule has a pattern, which says for which records it is there, and statements that are
done then.
-/

namespace AsmLayout.Host.Awk

open Text (Octets)

inductive Operation where
  | add
  | subtract
  | multiply
  | divide
  | modulo
  | power
  deriving Repr, DecidableEq

/-- The functions that are known from the start. -/
inductive Known where
  | length
  | substr
  | index
  | split
  | fit
  | sub
  | gsub
  | sprintf
  | sin
  | cos
  | atan2
  | exp
  | log
  | sqrt
  | int
  | rand
  | srand
  | toupper
  | tolower
  | system
  | close
  | fflush
  | systime
  deriving Repr, DecidableEq

/-- Where output goes to other than the standard output. -/
inductive Outlet where
  | file
  | append
  | command
  deriving Repr, DecidableEq

inductive Expr where
  | number (x : Float)
  | text (text : Octets)
  /-- Whether the record fits. -/
  | pattern (regex : Regex)
  | named (name : String)
  | element (table : String) (keys : List Expr)
  | field (number : Expr)
  | assign (operation : Option Operation) (target value : Expr)
  | choice (test whenTrue whenFalse : Expr)
  | both (first second : Expr)
  | either (first second : Expr)
  | not (inner : Expr)
  | negate (inner : Expr)
  | plus (inner : Expr)
  | calculate (operation : Operation) (first second : Expr)
  | compare (sign : Comparison) (first second : Expr)
  | join (first second : Expr)
  | fits (negated : Bool) (subject regex : Expr)
  | isIn (keys : List Expr) (table : String)
  /-- Add one or take one away; the value is the old or the new one. -/
  | step (up old : Bool) (target : Expr)
  | known (function : Known) (arguments : List Expr)
  | call (function : String) (arguments : List Expr)
  /-- Read the next record, into a variable if there is one. -/
  | read (target? : Option Expr)
  | readFile (target? : Option Expr) (path : Expr)
  | readCommand (target? : Option Expr) (command : Expr)
  | group (inner : Expr)
  deriving Repr

inductive Statement where
  | expression (e : Expr)
  | print (values : List Expr) (outlet? : Option (Outlet × Expr))
  | printf (values : List Expr) (outlet? : Option (Outlet × Expr))
  | block (statements : List Statement)
  | choose (test : Expr) (whenTrue : Statement) (whenFalse? : Option Statement)
  | whileTrue (test : Expr) (body : Statement)
  | doWhile (body : Statement) (test : Expr)
  | loop (start? : Option Statement) (test? : Option Expr) (next? : Option Statement) (body : Statement)
  | forKeys (name table : String) (body : Statement)
  | delete (table : String) (keys? : Option (List Expr))
  | breakLoop
  | continueLoop
  | nextRecord
  | nextFile
  | exit (status? : Option Expr)
  | returning (value? : Option Expr)
  deriving Repr

/-- When the statements of a rule are done. -/
inductive Pattern where
  | start
  | finish
  | always
  | when (test : Expr)
  /-- From a record for which the first test holds up to one for which the second one does. -/
  | range (first last : Expr)
  deriving Repr

/-- A rule. Without statements the record is printed. -/
structure Rule where
  pattern : Pattern
  body? : Option (List Statement)
  deriving Repr

structure Function where
  parameters : List String
  body : List Statement
  deriving Repr

structure Program where
  rules : List Rule := []
  functions : List (String × Function) := []
  deriving Repr

end AsmLayout.Host.Awk
