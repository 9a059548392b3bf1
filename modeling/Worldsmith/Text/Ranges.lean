/-!
# Ranges of code points

A character class is a list of ranges in increasing order, each given by its first and last
code point. `Ranges.has` stops at the first range that begins past the code point it looks for.
-/

namespace Worldsmith.Text

/-- Ranges of code points, in increasing order and apart from each other. -/
abbrev Ranges := List (Nat × Nat)

/-- Whether one of the ranges holds `n`. -/
def Ranges.has (n : Nat) : Ranges → Bool
  | [] => false
  | (first, last) :: rest =>
    if n < first then false else n ≤ last || Ranges.has n rest

end Worldsmith.Text
