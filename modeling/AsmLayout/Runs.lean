/-! # Cutting a list into runs

A list is cut in front of every element that starts a run. Nothing is lost, no run is empty, and only
the first run may start with another element.
-/

namespace AsmLayout

def runs {α : Type} (starts : α → Bool) : List α → List (List α)
  | [] => []
  | x :: xs => (x :: xs.takeWhile (!starts ·)) :: runs starts (xs.dropWhile (!starts ·))
termination_by xs => xs.length
decreasing_by
  have := (List.dropWhile_sublist (!starts ·) (l := xs)).length_le
  simp only [List.length_cons]
  omega

end AsmLayout
