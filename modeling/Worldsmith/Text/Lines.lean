import Worldsmith.Text.Blank

/-!
# Lines and pieces of text

Cutting text at line ends and at white space.
-/

namespace Worldsmith.Text

/-- Put `c` in front of the first piece. -/
def extendFirst (c : Char) : List (List Char) → List (List Char)
  | [] => [[c]]
  | piece :: rest => (c :: piece) :: rest

/-- The lines of a text, each with its line end. Only the last may lack one, and it is not
empty. -/
def linesWithEnds : List Char → List (List Char)
  | [] => []
  | c :: rest =>
    if c = '\n' then ['\n'] :: linesWithEnds rest else extendFirst c (linesWithEnds rest)

/-- A line without its end: a line feed, and a carriage return just before that. -/
def dropLineEnd (line : List Char) : List Char :=
  match line.reverse with
  | '\n' :: '\r' :: rest => rest.reverse
  | '\n' :: rest => rest.reverse
  | _ => line

/-- The lines of a text. -/
def lines (s : String) : List String :=
  (linesWithEnds s.toList).map fun line => String.ofList (dropLineEnd line)

/-- Remove white space at both ends. -/
def trim (s : String) : String :=
  String.ofList ((s.toList.dropWhile isBlank).reverse.dropWhile isBlank).reverse

/-- The pieces of a text between white space, none of them empty. -/
def pieces (cs : List Char) : List (List Char) :=
  match h : cs.dropWhile isBlank with
  | [] => []
  | c :: rest =>
    have : (rest.dropWhile fun x => !isBlank x).length < cs.length := by
      have h₁ : (cs.dropWhile isBlank).length ≤ cs.length := (List.dropWhile_sublist _).length_le
      have h₂ : (rest.dropWhile fun x => !isBlank x).length ≤ rest.length :=
        (List.dropWhile_sublist _).length_le
      rw [h] at h₁
      simp only [List.length_cons] at h₁
      omega
    (c :: rest.takeWhile fun x => !isBlank x) :: pieces (rest.dropWhile fun x => !isBlank x)
termination_by cs.length

/-- The pieces of a text between white space. -/
def splitBlank (s : String) : List String :=
  (pieces s.toList).map String.ofList

end Worldsmith.Text
