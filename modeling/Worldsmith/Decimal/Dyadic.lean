/-!
# Doubles as exact numbers

A finite double is a sign and a whole number times a power of two. Rounding and printing are exact
arithmetic on these parts.
-/

namespace Worldsmith

/-- The number `mantissa * 2 ^ exponent`, negated if `negative`. -/
structure Dyadic where
  negative : Bool
  mantissa : Nat
  exponent : Int
  deriving DecidableEq, Repr

/-- What a double stands for. -/
inductive DoubleValue where
  | finite (value : Dyadic)
  | infinite (negative : Bool)
  | notANumber
  deriving DecidableEq, Repr

namespace DoubleValue

/-- Read the 64 bits of a double: a sign, 11 bits of exponent and 52 bits of fraction. -/
def ofBits (bits : Nat) : DoubleValue :=
  let negative := Nat.pow 2 63 ≤ bits
  let field : Nat := bits / Nat.pow 2 52 % Nat.pow 2 11
  let fraction := bits % Nat.pow 2 52
  if field = 2047 then
    if fraction = 0 then .infinite negative else .notANumber
  else if field = 0 then .finite ⟨negative, fraction, -1074⟩
  else .finite ⟨negative, Nat.pow 2 52 + fraction, (field : Int) - 1075⟩

def ofFloat (x : Float) : DoubleValue :=
  ofBits x.toBits.toNat

end DoubleValue

namespace Dyadic

/-- The number without its sign as a quotient of whole numbers. -/
def quotient (x : Dyadic) : Nat × Nat :=
  if 0 ≤ x.exponent then (x.mantissa * Nat.pow 2 x.exponent.toNat, 1)
  else (x.mantissa, Nat.pow 2 (-x.exponent).toNat)

end Dyadic

/-- Where a number half way between two whole numbers goes. -/
inductive Tie where
  | awayFromZero
  | toEven
  deriving DecidableEq, Repr

/-- The whole number nearest to `num / den`. -/
def roundQuotient (tie : Tie) (num den : Nat) : Nat :=
  let floor := num / den
  let twice := 2 * (num % den)
  if twice < den then floor
  else if den < twice then floor + 1
  else
    match tie with
    | .awayFromZero => floor + 1
    | .toEven => floor + floor % 2

/-- The whole number nearest to a finite number. -/
def Dyadic.round (tie : Tie) (x : Dyadic) : Int :=
  let size := roundQuotient tie x.quotient.1 x.quotient.2
  if x.negative then -size else size

end Worldsmith
