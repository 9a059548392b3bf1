import Worldsmith.Logic.Literal
import Worldsmith.Decimal.Dyadic

/-!
# Variables

A variable has a value only where its guard is true. Numbers are drawn once the propositions are
settled. A menu has one proposition for each of its values, so that what restricts it takes part
in the search.
-/

namespace Worldsmith

/-- The values that a variable can take. -/
inductive Domain where
  | range (low high : Float)
  /-- One of some texts; the proposition in the same place says that it is taken. -/
  | menu (values : List String) (choices : List Proposition)

structure Variable where
  name : String
  guard : Literal
  domain : Domain

/-- The propositions that a variable mentions. -/
def Variable.propositions (v : Variable) : List Proposition :=
  v.guard.proposition :: match v.domain with
    | .range _ _ => []
    | .menu _ choices => choices

/-- The value of a variable. -/
inductive Value where
  | number (value : Float)
  | text (value : String)

/-- The greatest and least whole numbers that a shown value can have. -/
def shownLimit : Nat := Nat.pow 2 63

/-- A number as it is shown: rounded to a whole number, half away from zero. -/
def shownNumber (x : Float) : Int :=
  match DoubleValue.ofFloat x with
  | .finite value => max (-shownLimit) (min (shownLimit - 1) (value.round .awayFromZero))
  | .infinite negative => if negative then -shownLimit else shownLimit - 1
  | .notANumber => 0

/-- A whole number in digits. -/
def wholeText : Int → String
  | .ofNat n => n.repr
  | .negSucc n => "-" ++ (n + 1).repr

def Value.render : Value → String
  | .number value => wholeText (shownNumber value)
  | .text value => value

end Worldsmith
