import AsmLayout.Host.Awk.Machine

/-! # Parts of texts

Parts of a text are found by their place or by a regular expression, and other texts can be put in their
place.
-/

namespace AsmLayout.Host.Awk

open Text (Octets)

/-- A piece of what is put in the place of a part. -/
inductive Filling where
  | text (text : Octets)
  /-- The part itself. -/
  | whole
  deriving Repr, DecidableEq

/-- The pieces of a text that is put in the place of a part. An ampersand stands for the part; in front of
    one, two backslashes stand for one, and one more takes away the meaning of the ampersand. -/
def Filling.ofText : (fuel : Nat) → Octets → List Filling
  | 0, _ | _, [] => []
  | fuel + 1, '&' :: rest => whole :: ofText fuel rest
  | fuel + 1, '\\' :: rest =>
    let more := rest.takeWhile (· == '\\')
    let count := more.length + 1
    match rest.drop more.length with
    | '&' :: behind =>
      text (List.replicate (count / 2) '\\') ::
        (if count % 2 = 0 then whole else text ['&']) :: ofText fuel behind
    | behind => text (List.replicate count '\\') :: ofText fuel behind
  | fuel + 1, c :: rest => text [c] :: ofText fuel rest

/-- What is put in the place of a part. -/
def fillWith (fillings : List Filling) (part : Octets) : Octets :=
  fillings.flatMap fun filling =>
    match filling with
    | .text text => text
    | .whole => part

/-- Replace the parts that a regular expression fits, from a position on. `barred` is where a part ended:
    an empty one does not start there. Gives what has been put together, the last piece first, and how many
    parts there were. -/
def replaceParts (regex : Regex) (subject : Regex.Subject) (fillings : List Filling) (all : Bool) :
    (fuel : Nat) → (done : List Octets) → (count position : Nat) → (barred : Option Nat) →
      List Octets × Nat
  | 0, done, count, position, _ => (subject.part position subject.text.size :: done, count)
  | fuel + 1, done, count, position, barred =>
    let finish (done : List Octets) (count position : Nat) : List Octets × Nat :=
      (subject.part position subject.text.size :: done, count)
    match regex.find? subject position with
    | none => finish done count position
    | some (start, fit) =>
      let front := subject.part position start
      let stop := fit.position
      let filled := fillWith fillings (subject.part start stop)
      if start < stop then
        let done := filled :: front :: done
        if all then replaceParts regex subject fillings all fuel done (count + 1) stop (some stop)
        else finish done (count + 1) stop
      else
        let (done, count) :=
          if barred = some start then (front :: done, count) else (filled :: front :: done, count + 1)
        if !all || subject.text.size ≤ start then finish done count start
        else
          replaceParts regex subject fillings all fuel (subject.part start (start + 1) :: done) count
            (start + 1) none

/-- A text with something in the place of the first part or of all parts that a regular expression fits,
    and how many those are. -/
def replaceIn (regex : Regex) (filling : Octets) (all : Bool) (text : Octets) : Octets × Nat :=
  let fillings := Filling.ofText (filling.length + 1) filling
  let (done, count) :=
    replaceParts regex { text := text.toArray } fillings all (2 * text.length + 2) [] 0 0 none
  (done.reverse.flatten, count)

/-- Where a text occurs first in another one, counted from one on; zero if it does not. -/
def placeIn (wanted : Octets) : (place : Nat) → Octets → Nat
  | place, text@(_ :: rest) =>
    if wanted.isPrefixOf text then place else placeIn wanted (place + 1) rest
  | _, [] => 0

/-- A part of a text: where it starts, counted from one on, and how long it is if that is told. -/
def partOf (text : Octets) (start : Int) (length? : Option Int) : Octets :=
  let (start, length?) : Int × Option Int :=
    if start < 0 then (1, length?.map (· - start)) else if start = 0 then (1, length?)
    else (start, length?)
  let rest := text.drop (start - 1).toNat
  match length? with
  | some length => rest.take length.toNat
  | none => rest

end AsmLayout.Host.Awk
