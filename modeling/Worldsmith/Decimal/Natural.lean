/-!
# Reading whole numbers

A whole number is read from ASCII digits, possibly after a plus sign, if it stays below a limit.
-/

namespace Worldsmith

/-- The number that digits stand for. -/
def digitsValue (digits : List Char) : Nat :=
  digits.foldl (fun value c => 10 * value + (c.toNat - '0'.toNat)) 0

/-- The number that a text stands for, if it is below `limit`. -/
def boundedNumber? (limit : Nat) (text : List Char) : Option Nat :=
  let digits := match text with
    | '+' :: rest => rest
    | _ => text
  if digits.isEmpty || !digits.all Char.isDigit then none
  else if digitsValue digits < limit then some (digitsValue digits) else none

/-- The first number that does not fit a machine word. -/
def wordLimit : Nat := Nat.pow 2 64

end Worldsmith
