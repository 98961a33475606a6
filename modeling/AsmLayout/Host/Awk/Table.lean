import AsmLayout.Host.Awk.Value
import Std.Data.HashMap

/-! # Tables

A table holds values by their keys, which are texts. A loop meets the keys row by row: the row of a key
depends on its hash, and in a row stands in front what was looked for last. Keys that have only been looked
for as whole numbers stand in rows by their number, and get their place as texts when one is needed.
-/

namespace AsmLayout.Host.Awk

open Text (Octets)

structure Table where
  values : Std.HashMap Octets Value := {}
  /-- The keys by the hash of their text. -/
  texts : Array (List Octets)
  /-- Keys by their number. -/
  numbers : Array (List Int)
  /-- Whether all keys stand by their text. If not, all stand by their number. -/
  byText : Bool := false

namespace Table

def firstRows : Nat := 64

/-- How many keys a row has on average before there are more rows. -/
def rowLength : Nat := 12

/-- A table without keys. -/
def empty : Table where
  texts := Array.replicate firstRows []
  numbers := Array.replicate firstRows []

/-- How many keys a table has. -/
def size (table : Table) : Nat :=
  table.values.size

def rows (table : Table) : Nat :=
  table.texts.size

def hash (key : Octets) : UInt32 :=
  key.foldl (fun hash c => (hash ^^^ UInt32.ofNat c.toNat) * 16777619) 2166136261

/-- The row of a key among so many. -/
def rowOfText (rows : Nat) (key : Octets) : Nat :=
  (hash key).toNat % rows

def rowOfNumber (rows : Nat) (n : Int) : Nat :=
  (n % rows).toNat

/-- Twice as many rows. What leaves a row keeps its order. -/
def split {α : Type} (rowOf : (rows : Nat) → α → Nat) (rows : Array (List α)) : Array (List α) :=
  let doubled := 2 * rows.size
  let pick (i : Nat) : List α :=
    (rows.getD (i % rows.size) []).filter fun key => rowOf doubled key == i
  ((List.range doubled).map pick).toArray

/-- A table with room for one more key. -/
def grow (table : Table) : Table :=
  if table.size < rowLength * table.rows then table
  else
    { table with
      texts := split rowOfText table.texts
      numbers := split rowOfNumber table.numbers }

/-- Put a key in front of a row. -/
def putFirst {α : Type} [BEq α] (key : α) (row : List α) : List α :=
  match row with
  | first :: _ => if first == key then row else key :: row.filter (· != key)
  | [] => [key]

/-- A table whose keys stand by their texts. -/
def withTexts (table : Table) : Table :=
  if table.byText then table
  else
    let keys := table.numbers.toList.flatten.map Text.signedDecimal
    { table with
      byText := true
      texts := keys.foldl (fun rows key =>
        rows.modify (rowOfText rows.size key) (key :: ·)) table.texts }

/-- Look for a text; if the key is missing, it is made on demand. -/
def touchText (create : Bool) (key : Octets) (table : Table) : Table :=
  let table := table.withTexts
  let enter (table : Table) : Table :=
    { table with texts := table.texts.modify (rowOfText table.rows key) (putFirst key) }
  if table.values.contains key then enter table
  else if create then
    let table := table.grow
    enter { table with values := table.values.insert key .unset }
  else table

/-- Look for a number; if the key is missing, it is made on demand. -/
def touchNumber (create : Bool) (n : Int) (table : Table) : Table :=
  let key := Text.signedDecimal n
  let isThere := table.values.contains key
  let enter (table : Table) : Table :=
    { table with numbers := table.numbers.modify (rowOfNumber table.rows n) (putFirst n) }
  let isNumbered := (table.numbers.getD (rowOfNumber table.rows n) []).contains n
  if isNumbered then enter table
  else if !isThere && !create then table
  else if table.byText then enter (table.touchText create key)
  else
    let table := table.grow
    enter { table with values := table.values.insert key .unset }

/-- A key: the text by which values are found, and the number if it is a whole one. -/
structure Key where
  text : Octets
  number? : Option Int := none
  deriving Repr, DecidableEq

def touch (create : Bool) (key : Key) (table : Table) : Table :=
  match key.number? with
  | some n => table.touchNumber create n
  | none => table.touchText create key.text

def value? (table : Table) (key : Key) : Option Value :=
  table.values[key.text]?

def set (table : Table) (key : Key) (value : Value) : Table :=
  let table := table.touch true key
  { table with values := table.values.insert key.text value }

/-- Take a key away. -/
def remove (table : Table) (key : Key) : Table :=
  let table := table.touch false key
  if !table.values.contains key.text then table
  else if table.size = 1 then empty
  else
    let drop (n : Int) (table : Table) : Table :=
      { table with numbers := table.numbers.modify (rowOfNumber table.rows n) (·.erase n) }
    let number? := key.number?.or
      (match whole? (readNumber key.text) with
        | some n => if Text.signedDecimal n == key.text then some n else none
        | none => none)
    let table := match number? with
      | some n => drop n table
      | none => table
    { table with
      values := table.values.erase key.text
      texts := table.texts.modify (rowOfText table.rows key.text) (·.erase key.text) }

/-- The keys in the order in which a loop meets them, and the table whose keys stand by their texts. -/
def keys (table : Table) : List Octets × Table :=
  let table := table.withTexts
  (table.texts.toList.flatten, table)

/-- A table of so many rows at least, with values that are numbered from one on. -/
def ofList (values : List Value) : Table :=
  let rec rowsFor : (fuel : Nat) → Nat → Nat
    | 0, rows => rows
    | fuel + 1, rows => if values.length ≤ rowLength * rows then rows else rowsFor fuel (2 * rows)
  let rows := rowsFor values.length firstRows
  let numbered := values.zipIdx 1
  { values := Std.HashMap.ofList (numbered.map fun (value, n) => (Text.decimal n, value))
    texts := Array.replicate rows []
    numbers := numbered.foldl (fun numbers (_, n) =>
      numbers.modify (rowOfNumber rows n) ((n : Int) :: ·)) (Array.replicate rows []) }

end Table

end AsmLayout.Host.Awk
