import AsmLayout.Text.Octets

/-! # Patterns of names

A star in a pattern stands for any text, a question mark for any character, and characters in brackets for
one of them. Characters that were quoted stand for themselves.
-/

namespace AsmLayout.Host

open Text (Octets)

/-- A character of an expanded word, or a place in it. -/
inductive Glyph where
  /-- A character that stands in the word outside quotes. -/
  | plain (c : Char)
  /-- A character in quotes: it stands for itself. -/
  | quoted (c : Char)
  /-- A character that was put in outside quotes: the word may be split there. -/
  | loose (c : Char)
  /-- Quotes, with or without something inside. -/
  | quotes
  /-- A place where the word is split in any case. -/
  | cut
  deriving Repr, DecidableEq

def Glyph.char? : Glyph → Option Char
  | plain c | quoted c | loose c => some c
  | quotes | cut => none

def glyphText (glyphs : List Glyph) : Octets :=
  glyphs.filterMap Glyph.char?

/-- The character of a glyph if it can have a meaning in a pattern. -/
def Glyph.active? : Glyph → Option Char
  | plain c | loose c => some c
  | quoted _ | quotes | cut => none

/-- What stands between brackets. -/
inductive BracketItem where
  | range (low high : Char)
  | named (name : String)
  deriving Repr, DecidableEq

inductive PatternPart where
  | exactly (c : Char)
  | one
  | many
  | among (negated : Bool) (items : List BracketItem)
  deriving Repr, DecidableEq

/-- Whether a byte belongs to a class of characters. -/
def inClass (name : String) (c : Char) : Bool :=
  let upper := 'A' ≤ c && c ≤ 'Z'
  let lower := 'a' ≤ c && c ≤ 'z'
  let digit := '0' ≤ c && c ≤ '9'
  let graph := '!' ≤ c && c ≤ '~'
  match name with
  | "alpha" => upper || lower
  | "upper" => upper
  | "lower" => lower
  | "digit" => digit
  | "alnum" => upper || lower || digit
  | "xdigit" => digit || ('a' ≤ c && c ≤ 'f') || ('A' ≤ c && c ≤ 'F')
  | "space" => c == ' ' || ('\t' ≤ c && c ≤ '\r')
  | "blank" => c == ' ' || c == '\t'
  | "cntrl" => c < ' ' || c == '\x7f'
  | "punct" => graph && !(upper || lower || digit)
  | "graph" => graph
  | "print" => graph || c == ' '
  | _ => false

/-- Whether a byte is one of those in brackets. -/
def BracketItem.fits (c : Char) : BracketItem → Bool
  | range low high => low ≤ c && c ≤ high
  | named name => inClass name c

/-- The name of a class from behind its colon on, and what follows the class. -/
def className (glyphs : List Glyph) : Option (String × List Glyph) :=
  let letters := glyphs.takeWhile fun g => match g.char? with
    | some c => c.isAlpha
    | none => false
  match glyphs.drop letters.length with
  | .plain ':' :: .plain ']' :: rest => some (String.ofList (glyphText letters), rest)
  | _ => none

/-- The items in brackets, up to the closing one, which is dropped; `none` if there is none. -/
def bracketItems : (fuel : Nat) → (first : Bool) → List Glyph →
    Option (List BracketItem × List Glyph)
  | 0, _, _ => none
  | _ + 1, _, [] => none
  | fuel + 1, first, glyph :: rest =>
    let single (c : Char) : Option (List BracketItem × List Glyph) :=
      let (item, rest) : BracketItem × List Glyph := match rest with
        | dash :: next :: behind =>
          match dash.active?, next.char? with
          | some '-', some d =>
            if next.active? = some ']' then (.range c c, rest) else (.range c d, behind)
          | _, _ => (.range c c, rest)
        | _ => (.range c c, rest)
      (bracketItems fuel false rest).map fun (items, rest) => (item :: items, rest)
    match glyph with
    | .plain ']' | .loose ']' =>
      if first then single ']' else some ([], rest)
    | .plain '[' =>
      match rest with
      | .plain ':' :: behind =>
        match className behind with
        | some (name, rest) =>
          (bracketItems fuel false rest).map fun (items, rest) => (.named name :: items, rest)
        | none => single '['
      | _ => single '['
    | glyph =>
      match glyph.char? with
      | some c => single c
      | none => bracketItems fuel first rest

def patternParts : (fuel : Nat) → List Glyph → List PatternPart
  | 0, _ => []
  | _ + 1, [] => []
  | fuel + 1, glyph :: rest =>
    match glyph.active?, glyph.char? with
    | some '*', _ => .many :: patternParts fuel rest
    | some '?', _ => .one :: patternParts fuel rest
    | some '\\', _ =>
      match rest with
      | next :: behind =>
        match next.char? with
        | some c => .exactly c :: patternParts fuel behind
        | none => .exactly '\\' :: patternParts fuel rest
      | [] => [.exactly '\\']
    | some '[', _ =>
      let (negated, inside) : Bool × List Glyph := match rest with
        | .plain '!' :: inside | .loose '!' :: inside => (true, inside)
        | inside => (false, inside)
      match bracketItems (inside.length + 1) true inside with
      | some (items, behind) => .among negated items :: patternParts fuel behind
      | none => .exactly '[' :: patternParts fuel rest
    | _, some c => .exactly c :: patternParts fuel rest
    | _, none => patternParts fuel rest

def patternOf (glyphs : List Glyph) : List PatternPart :=
  patternParts (glyphs.length + 1) glyphs

/-- Whether a part can have more than one meaning. -/
def PatternPart.isWild : PatternPart → Bool
  | exactly _ => false
  | _ => true

def PatternPart.fits (c : Char) : PatternPart → Bool
  | exactly d => c == d
  | one | many => true
  | among negated items => items.any (·.fits c) != negated

/-- Whether a text or what is left of it behind some character is as asked. -/
def anySuffix (asked : Octets → Bool) : Octets → Bool
  | [] => asked []
  | c :: rest => asked (c :: rest) || anySuffix asked rest

def fitsWhole : List PatternPart → Octets → Bool
  | [], text => text.isEmpty
  | .many :: parts, text => anySuffix (fitsWhole parts) text
  | part :: parts, c :: text => part.fits c && fitsWhole parts text
  | _ :: _, [] => false

/-- The text without the shortest or longest part at its front that a pattern fits. -/
def trimFront (pattern : List PatternPart) (longest : Bool) (text : Octets) : Octets :=
  let cuts := List.range (text.length + 1)
  let found := (if longest then cuts.reverse else cuts).find? fun n =>
    fitsWhole pattern (text.take n)
  text.drop (found.getD 0)

/-- The text without the shortest or longest part at its end that a pattern fits. -/
def trimBack (pattern : List PatternPart) (longest : Bool) (text : Octets) : Octets :=
  let cuts := List.range (text.length + 1)
  let found := (if longest then cuts else cuts.reverse).find? fun n =>
    fitsWhole pattern (text.drop n)
  text.take (found.getD text.length)

end AsmLayout.Host
