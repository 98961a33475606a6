import AsmLayout.Text.Octets
import Std.Data.HashMap

/-! # What differs between two sequences

Two sequences differ in the entries that are not part of a longest common subsequence. It is found from a
point in its middle, at which a search from the front and one from the back meet. Where it is not the only
one, the runs of entries that differ stand as far back as they can, unless they can stand beside each other.
-/

namespace AsmLayout.Host.Difference

/-- A part of two sequences. -/
structure Window where
  xStart : Nat
  xEnd : Nat
  yStart : Nat
  yEnd : Nat
  deriving Repr, DecidableEq

structure Pair where
  xs : Array Nat
  ys : Array Nat
  deriving Repr, DecidableEq

namespace Pair

def agree (pair : Pair) (x y : Nat) : Bool :=
  match pair.xs[x]?, pair.ys[y]? with
  | some a, some b => a == b
  | _, _ => false

/-- How many entries are the same from positions on. -/
def sameAhead (pair : Pair) (window : Window) : (fuel : Nat) → (x y : Nat) → Nat
  | 0, _, _ => 0
  | fuel + 1, x, y =>
    if x < window.xEnd && y < window.yEnd && pair.agree x y then
      sameAhead pair window fuel (x + 1) (y + 1) + 1
    else 0

/-- How many entries are the same in front of positions. -/
def sameBehind (pair : Pair) (window : Window) : (fuel : Nat) → (x y : Nat) → Nat
  | 0, _, _ => 0
  | fuel + 1, x, y =>
    if window.xStart < x && window.yStart < y && pair.agree (x - 1) (y - 1) then
      sameBehind pair window fuel (x - 1) (y - 1) + 1
    else 0

/-- How far searches have come on each diagonal, as positions in the first sequence. -/
structure Frontier where
  values : Array Int
  /-- Diagonals from here on have a place. -/
  offset : Int

namespace Frontier

/-- How far a search has come on a diagonal. -/
def value (frontier : Frontier) (d : Int) : Int :=
  frontier.values.getD (d + frontier.offset).toNat 0

/-- A frontier with another value. -/
def set (frontier : Frontier) (d value : Int) : Frontier :=
  { frontier with values := frontier.values.setIfInBounds (d + frontier.offset).toNat value }

end Frontier

/-- A search from both ends, with the diagonals that each has come to. -/
structure Search where
  front : Frontier
  back : Frontier
  frontLow : Int
  frontHigh : Int
  backLow : Int
  backHigh : Int

def farAway : Int := 0x7FFFFFFFFFFFFFFF

/-- Go on from the front by one entry that differs, on the diagonals from one downwards. Gives where the
    searches meet if they do. -/
def extendFront (pair : Pair) (window : Window) (odd : Bool) :
    (fuel : Nat) → (d : Int) → Search → Search × Option (Nat × Nat)
  | 0, _, search => (search, none)
  | fuel + 1, d, search =>
    if d < search.frontLow then (search, none)
    else
      let low := search.front.value (d - 1)
      let high := search.front.value (d + 1)
      let start := if low < high then high else low + 1
      let same := pair.sameAhead window (window.xEnd + 1) start.toNat (start - d).toNat
      let x := start + same
      let search := { search with front := search.front.set d x }
      if odd && search.backLow ≤ d && d ≤ search.backHigh && search.back.value d ≤ x then
        (search, some (x.toNat, (x - d).toNat))
      else extendFront pair window odd fuel (d - 2) search

/-- Go on from the back by one entry that differs, on the diagonals from one downwards. Gives where the
    searches meet if they do. -/
def extendBack (pair : Pair) (window : Window) (odd : Bool) :
    (fuel : Nat) → (d : Int) → Search → Search × Option (Nat × Nat)
  | 0, _, search => (search, none)
  | fuel + 1, d, search =>
    if d < search.backLow then (search, none)
    else
      let low := search.back.value (d - 1)
      let high := search.back.value (d + 1)
      let start := if low < high then low else high - 1
      let same := pair.sameBehind window (window.xEnd + 1) start.toNat (start - d).toNat
      let x := start - same
      let search := { search with back := search.back.set d x }
      if !odd && search.frontLow ≤ d && d ≤ search.frontHigh && x ≤ search.front.value d then
        (search, some (x.toNat, (x - d).toNat))
      else extendBack pair window odd fuel (d - 2) search

/-- Where the searches meet, the one from the front going first. -/
def meet (pair : Pair) (window : Window) (odd : Bool) (least greatest : Int) :
    (fuel : Nat) → Search → Nat × Nat
  | 0, _ => (window.xEnd, window.yEnd)
  | fuel + 1, search =>
    let search :=
      if least < search.frontLow then
        { search with
          frontLow := search.frontLow - 1
          front := search.front.set (search.frontLow - 2) (-1) }
      else { search with frontLow := search.frontLow + 1 }
    let search :=
      if search.frontHigh < greatest then
        { search with
          frontHigh := search.frontHigh + 1
          front := search.front.set (search.frontHigh + 2) (-1) }
      else { search with frontHigh := search.frontHigh - 1 }
    let steps := search.front.values.size
    match extendFront pair window odd steps search.frontHigh search with
    | (_, some found) => found
    | (search, none) =>
      let search :=
        if least < search.backLow then
          { search with
            backLow := search.backLow - 1
            back := search.back.set (search.backLow - 2) farAway }
        else { search with backLow := search.backLow + 1 }
      let search :=
        if search.backHigh < greatest then
          { search with
            backHigh := search.backHigh + 1
            back := search.back.set (search.backHigh + 2) farAway }
        else { search with backHigh := search.backHigh - 1 }
      match extendBack pair window odd steps search.backHigh search with
      | (_, some found) => found
      | (search, none) => meet pair window odd least greatest fuel search

/-- A point in the middle of a longest common subsequence of a part. -/
def middle (pair : Pair) (window : Window) : Nat × Nat :=
  let height : Int := (window.yEnd : Int)
  let size := pair.xs.size + pair.ys.size + 5
  let frontier : Frontier := ⟨Array.replicate size 0, pair.ys.size + 2⟩
  let first : Int := (window.xStart : Int) - window.yStart
  let last : Int := (window.xEnd : Int) - window.yEnd
  pair.meet window ((first - last) % 2 != 0) (window.xStart - height) (window.xEnd - window.yStart) size
    { front := frontier.set first window.xStart, back := frontier.set last window.xEnd
      frontLow := first, frontHigh := first, backLow := last, backHigh := last }

/-- Which entries of two sequences differ. -/
structure Marks where
  xs : Array Bool
  ys : Array Bool
  deriving Repr, DecidableEq

/-- Mark the entries of a part that differ. -/
def mark (pair : Pair) : (fuel : Nat) → Window → Marks → Marks
  | 0, _, marks => marks
  | fuel + 1, window, marks =>
    let ahead := pair.sameAhead window (window.xEnd + 1) window.xStart window.yStart
    let window := { window with xStart := window.xStart + ahead, yStart := window.yStart + ahead }
    let behind := pair.sameBehind window (window.xEnd + 1) window.xEnd window.yEnd
    let window := { window with xEnd := window.xEnd - behind, yEnd := window.yEnd - behind }
    let fill (marks : Array Bool) (start stop : Nat) : Array Bool :=
      (List.range (stop - start)).foldl (fun marks i => marks.setIfInBounds (start + i) true) marks
    if window.xStart = window.xEnd then
      { marks with ys := fill marks.ys window.yStart window.yEnd }
    else if window.yStart = window.yEnd then
      { marks with xs := fill marks.xs window.xStart window.xEnd }
    else
      let (x, y) := pair.middle window
      let marks := mark pair fuel { window with xEnd := x, yEnd := y } marks
      mark pair fuel { window with xStart := x, yStart := y } marks

end Pair

/-! ## Runs that can be shifted -/

/-- A run of entries that differ, with the place in the other sequence that goes with its end. -/
structure Run where
  changed : Array Bool
  start : Nat
  stop : Nat
  other : Nat
  /-- The last end of the run beside which a run of the other sequence ended. -/
  beside? : Option Nat
  deriving Repr, DecidableEq

def isMarked (marks : Array Bool) (n : Nat) : Bool :=
  marks.getD n false

/-- Whether the entry in front of a position is marked. -/
def isMarkedBefore (marks : Array Bool) (n : Nat) : Bool :=
  0 < n && isMarked marks (n - 1)

/-- The first position from one on in front of which there are no marks any more. -/
def skipBack (marks : Array Bool) : (n : Nat) → Nat
  | 0 => 0
  | n + 1 => if isMarked marks n then skipBack marks n else n + 1

/-- The last position in front of one that is not marked. -/
def lastUnmarked (marks : Array Bool) : (n : Nat) → Nat
  | 0 => 0
  | n + 1 => if isMarked marks n then lastUnmarked marks n else n

/-- The first position from one on that is not marked. -/
def skipAhead (marks : Array Bool) : (fuel : Nat) → (n : Nat) → Nat
  | 0, n => n
  | fuel + 1, n => if isMarked marks n then skipAhead marks fuel (n + 1) else n

namespace Run

def shiftBack (others : Array Bool) (run : Run) : Run :=
  let changed := (run.changed.setIfInBounds (run.start - 1) true).setIfInBounds (run.stop - 1) false
  { run with
    changed, start := skipBack changed (run.start - 1), stop := run.stop - 1
    other := lastUnmarked others run.other }

/-- Shift a run back as far as it can be. -/
def shiftBackFully (entries : Array Nat) (others : Array Bool) : (fuel : Nat) → Run → Run
  | 0, run => run
  | fuel + 1, run =>
    if 0 < run.start && entries[run.start - 1]? == entries[run.stop - 1]? then
      shiftBackFully entries others fuel (run.shiftBack others)
    else run

/-- Shift a run ahead as far as it can be. -/
def shiftAheadFully (entries : Array Nat) (others : Array Bool) : (fuel : Nat) → Run → Run
  | 0, run => run
  | fuel + 1, run =>
    if run.stop < entries.size && entries[run.start]? == entries[run.stop]? then
      let changed := (run.changed.setIfInBounds run.start false).setIfInBounds run.stop true
      let stop := skipAhead changed (changed.size + 1) (run.stop + 1)
      let next := run.other + 1
      let other := skipAhead others (others.size + 1) next
      shiftAheadFully entries others fuel
        { changed, start := run.start + 1, stop, other
          beside? := if other != next then some stop else run.beside? }
    else run

/-- Shift a run back and ahead till it does not grow any more. -/
def settle (entries : Array Nat) (others : Array Bool) : (fuel : Nat) → Run → Run
  | 0, run => run
  | fuel + 1, run =>
    let length := run.stop - run.start
    let back := run.shiftBackFully entries others (entries.size + 1)
    let back := { back with
      beside? := if isMarkedBefore others back.other then some back.stop else none }
    let ahead := back.shiftAheadFully entries others (entries.size + 1)
    if ahead.stop - ahead.start = length then ahead else settle entries others fuel ahead

/-- Shift a run back to where it stands beside a run of the other sequence, if there is such a place. -/
def returnBeside (others : Array Bool) : (fuel : Nat) → Run → Run
  | 0, run => run
  | fuel + 1, run =>
    match run.beside? with
    | some place =>
      if place < run.stop then
        let changed := (run.changed.setIfInBounds (run.start - 1) true).setIfInBounds (run.stop - 1) false
        returnBeside others fuel
          { run with
            changed, start := run.start - 1, stop := run.stop - 1
            other := lastUnmarked others run.other }
      else run
    | none => run

end Run

/-- Shift the runs of a sequence from a position on; `other` is the place in the other one. -/
def shiftRuns (entries : Array Nat) (others : Array Bool) :
    (fuel : Nat) → (changed : Array Bool) → (position other : Nat) → Array Bool
  | 0, changed, _, _ => changed
  | fuel + 1, changed, position, other =>
    if entries.size ≤ position then changed
    else if !isMarked changed position then
      shiftRuns entries others fuel changed (position + 1)
        (skipAhead others (others.size + 1) other + 1)
    else
      let run : Run :=
        { changed, start := position, stop := skipAhead changed (changed.size + 1) (position + 1)
          other := skipAhead others (others.size + 1) other, beside? := none }
      let run := (run.settle entries others (entries.size + 1)).returnBeside others (entries.size + 1)
      shiftRuns entries others fuel run.changed run.stop run.other

/-! ## Changes -/

/-- A run of entries of the first sequence in the place of which there are others in the second one. -/
structure Change where
  xStart : Nat
  xCount : Nat
  yStart : Nat
  yCount : Nat
  deriving Repr, DecidableEq

def changesFrom (marks : Pair.Marks) : (fuel : Nat) → (x y : Nat) → List Change
  | 0, _, _ => []
  | fuel + 1, x, y =>
    let xStop := skipAhead marks.xs (marks.xs.size + 1) x
    let yStop := skipAhead marks.ys (marks.ys.size + 1) y
    let later :=
      if marks.xs.size ≤ xStop && marks.ys.size ≤ yStop then []
      else changesFrom marks fuel (xStop + 1) (yStop + 1)
    if xStop = x && yStop = y then later else ⟨x, xStop - x, y, yStop - y⟩ :: later

/-- Texts as numbers that are the same for the same texts. -/
def intern {α : Type} [BEq α] [Hashable α] (known : Std.HashMap α Nat) (texts : List α) :
    Std.HashMap α Nat × List Nat :=
  let (known, numbers) := texts.foldl (fun (known, numbers) text =>
    match known[text]? with
    | some n => (known, n :: numbers)
    | none => (known.insert text known.size, known.size :: numbers)) (known, [])
  (known, numbers.reverse)

/-! ## Entries that are left out

Entries that the other sequence does not have are changed in any case, and are left out of the search. So are
entries that the other one has very often, where they stand between such ones.
-/

inductive Standing where
  | kept
  /-- The other sequence has it very often. -/
  | doubtful
  /-- The other sequence does not have it. -/
  | dropped
  deriving Repr, DecidableEq

namespace Standing

/-- A number doubled for each time that another one can be divided by four. -/
def doubledFor : (fuel : Nat) → (scale n : Nat) → Nat
  | 0, n, _ => n
  | fuel + 1, n, scale => if 4 ≤ scale then doubledFor fuel (n * 2) (scale / 4) else n

/-- The standing of an entry before its neighbours are looked at, for a sequence of a length. -/
def ofCount (length count : Nat) : Standing :=
  if count = 0 then .dropped
  else if doubledFor length 5 (length / 64) < count then .doubtful else .kept

def settled : Standing → Standing
  | .doubtful => .kept
  | standing => standing

/-- Keep the doubtful ones of a sequence that stand together in a certain number. -/
def keepGroups (least : Nat) : (fuel : Nat) → List Standing → List Standing
  | 0, standings => standings
  | _, [] => []
  | fuel + 1, standing :: standings =>
    let group := (standing :: standings).takeWhile (· == .doubtful)
    if group.isEmpty then standing :: keepGroups least fuel standings
    else
      (if least ≤ group.length then group.map settled else group) ++
        keepGroups least fuel ((standing :: standings).drop group.length)

/-- Keep the doubtful ones at the front of a run, up to three dropped ones in a row or a dropped one that has
    eight others in front of it. -/
def keepFront : (position inRow : Nat) → List Standing → List Standing
  | _, _, [] => []
  | position, inRow, standing :: standings =>
    match standing with
    | .dropped =>
      if 8 ≤ position || inRow = 2 then standing :: standings
      else standing :: keepFront (position + 1) (inRow + 1) standings
    | _ => .kept :: keepFront (position + 1) 0 standings

/-- Decide about the doubtful ones in a run that starts and ends with dropped ones. -/
def decideRun (run : List Standing) : List Standing :=
  if run.length < run.count .doubtful * 4 then run.map settled
  else
    let least := doubledFor run.length 1 (run.length / 4) + 1
    let front := keepFront 0 0 (keepGroups least (run.length + 1) run)
    (keepFront 0 0 front.reverse).reverse

/-- Decide about the doubtful ones of a sequence. Those that are not between dropped ones are kept. -/
def decide : (fuel : Nat) → List Standing → List Standing
  | 0, standings => standings
  | _, [] => []
  | fuel + 1, .dropped :: standings =>
    let run := .dropped :: standings.takeWhile (· != .kept)
    let doubts := (run.reverse.takeWhile (· == .doubtful)).length
    let run := run.take (run.length - doubts)
    decideRun run ++ decide fuel (standings.drop (run.length - 1))
  | fuel + 1, _ :: standings => .kept :: decide fuel standings

end Standing

/-- How often each entry is in a sequence. -/
def countsOf (entries : List Nat) : Std.HashMap Nat Nat :=
  entries.foldl (fun counts n => counts.insert n (counts.getD n 0 + 1)) {}

/-- The entries that are searched for in the other sequence, with their positions. -/
def searched (entries : List Nat) (others : Std.HashMap Nat Nat) : List (Nat × Nat) :=
  let standings := entries.map fun entry => Standing.ofCount entries.length (others.getD entry 0)
  ((entries.zipIdx.zip (Standing.decide (entries.length + 1) standings)).filter
    fun (_, standing) => standing == .kept).map (·.1)

/-- How many entries two sequences start with that are the same. -/
def sameFront {α : Type} [BEq α] (first second : List α) : Nat :=
  ((first.zip second).takeWhile fun (a, b) => a == b).length

/-- The changes that make one sequence into another one. Entries are the same that have the same key. What
    is entirely the same at the front and at the end is not searched, but for some entries, the margin. A
    thorough search leaves nothing else out. -/
def changes {α β : Type} [BEq α] [BEq β] [Hashable β] (keyOf : α → β) (margin : Nat) (thorough : Bool)
    (first second : List α) : List Change :=
  let front := sameFront first second - margin
  let xRest := first.drop front
  let yRest := second.drop front
  let back := sameFront xRest.reverse yRest.reverse - margin
  let xRest := xRest.take (xRest.length - back)
  let yRest := yRest.take (yRest.length - back)
  let (known, xRest) := intern {} (xRest.map keyOf)
  let (_, yRest) := intern known (yRest.map keyOf)
  let xSearched := if thorough then xRest.zipIdx else searched xRest (countsOf yRest)
  let ySearched := if thorough then yRest.zipIdx else searched yRest (countsOf xRest)
  let pair : Pair := ⟨(xSearched.map (·.1)).toArray, (ySearched.map (·.1)).toArray⟩
  let marks := pair.mark (pair.xs.size + pair.ys.size + 2) ⟨0, pair.xs.size, 0, pair.ys.size⟩
    ⟨Array.replicate pair.xs.size false, Array.replicate pair.ys.size false⟩
  let spread (length : Nat) (entries : List (Nat × Nat)) (marks : Array Bool) : Array Bool :=
    entries.zipIdx.foldl (fun all ((_, position), n) =>
      all.setIfInBounds position (isMarked marks n)) (Array.replicate length true)
  let xMarks := spread xRest.length xSearched marks.xs
  let yMarks := spread yRest.length ySearched marks.ys
  let xMarks := shiftRuns xRest.toArray yMarks (2 * xRest.length + 2) xMarks 0 0
  let yMarks := shiftRuns yRest.toArray xMarks (2 * yRest.length + 2) yMarks 0 0
  (changesFrom ⟨xMarks, yMarks⟩ (xRest.length + yRest.length + 2) 0 0).map fun change =>
    { change with xStart := change.xStart + front, yStart := change.yStart + front }

end AsmLayout.Host.Difference
