import Worldsmith.Decimal.Natural
import Worldsmith.Language.Token

/-!
# Counts

A count is written in digits or as one of the small number words. Machine words bound what digits
can say.
-/

namespace Worldsmith

/-- The number words, from zero on. -/
def numberWords : List String :=
  ["zero", "one", "two", "three", "four", "five", "six", "seven", "eight", "nine", "ten",
   "eleven", "twelve"]

/-- The count that a token stands for. -/
def Token.count? (token : Token) : Option Nat :=
  match token.kind with
  | .number => boundedNumber? wordLimit token.text.toList
  | .word => numberWords.findIdx? token.reads
  | _ => none

end Worldsmith
