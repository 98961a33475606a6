/-! # Lines of a text

A line ends at a line feed, and a text that ends in a line feed has no empty last line.
-/

namespace AsmLayout.Text

/-- The lines of a text without their line feeds. -/
def lines : List Char → List (List Char)
  | [] => []
  | c :: cs =>
    if c = '\n' then [] :: lines cs
    else match lines cs with
      | [] => [[c]]
      | line :: rest => (c :: line) :: rest

/-- Join lines with line feeds between them. -/
def unlines (ls : List (List Char)) : List Char :=
  ['\n'].intercalate ls

end AsmLayout.Text
