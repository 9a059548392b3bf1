import Worldsmith.Decimal.Dyadic

/-!
# Shortest decimal text

The text of a double has the fewest digits that read back as the same double, and of those the
nearest to it. Digits are found grid by grid: with `n` digits the candidates are the two
neighbours of the number among the multiples of a power of ten.
-/

namespace Worldsmith

namespace Shortest

/-- Bounds of the numbers that read back as `mantissa * 2 ^ exponent`, in units of
`2 ^ (exponent - 2)`. Below a power of two the gap to the next double is half as wide. -/
def interval (x : Dyadic) : Nat × Nat :=
  let centre := 4 * x.mantissa
  let below := if x.mantissa = Nat.pow 2 52 && -1074 < x.exponent then 1 else 2
  (centre - below, centre + 2)

/-- Compare `digits * 10 ^ place` with `units * 2 ^ exponent`. -/
def compareScaled (digits : Nat) (place : Int) (units : Nat) (exponent : Int) : Ordering :=
  compare (digits * Nat.pow 10 place.toNat * Nat.pow 2 (-exponent).toNat)
    (units * Nat.pow 2 exponent.toNat * Nat.pow 10 (-place).toNat)

/-- Whether `digits * 10 ^ place` reads back as `x`. The ends of the interval do if the mantissa is
even. -/
def readsBack (x : Dyadic) (digits : Nat) (place : Int) : Bool :=
  let (low, high) := interval x
  let atLow := compareScaled digits place low (x.exponent - 2)
  let atHigh := compareScaled digits place high (x.exponent - 2)
  if x.mantissa % 2 = 0 then atLow != .lt && atHigh != .gt
  else atLow == .gt && atHigh == .lt

/-- The size of `x` in units of `10 ^ place`, rounded down. -/
def floorAt (x : Dyadic) (place : Int) : Nat :=
  x.mantissa * Nat.pow 2 x.exponent.toNat * Nat.pow 10 (-place).toNat /
    (Nat.pow 2 (-x.exponent).toNat * Nat.pow 10 place.toNat)

/-- Whether the upper neighbour on a grid is at least as near to `x` as the lower. -/
def upperNearer (x : Dyadic) (lower : Nat) (place : Int) : Bool :=
  compareScaled (2 * lower + 1) place (2 * x.mantissa) x.exponent != .gt

/-- The neighbour of `x` on the grid of `place` that reads back, the nearer if both do. -/
def onGrid (x : Dyadic) (place : Int) : Option Nat :=
  let lower := floorAt x place
  match readsBack x lower place, readsBack x (lower + 1) place with
  | true, true => some (if upperNearer x lower place then lower + 1 else lower)
  | true, false => some lower
  | false, true => some (lower + 1)
  | false, false => none

/-- The first grid, coarse to fine, with a number that reads back. -/
def search (x : Dyadic) : Nat → Int → Nat × Int
  | 0, place => (floorAt x place, place)
  | fuel + 1, place =>
    match onGrid x place with
    | some digits => (digits, place)
    | none => search x fuel (place - 1)

/-- The place of the leading digit of `x`, found by trying places downwards. -/
def leadingPlace (x : Dyadic) : Nat → Int → Int
  | 0, place => place
  | fuel + 1, place => if 0 < floorAt x place then place else leadingPlace x fuel (place - 1)

/-- Digits and the place of the last digit, for a number other than zero. The grid before the
leading place can hold a number that reads back. -/
def digits (x : Dyadic) : Nat × Int :=
  search x 20 (leadingPlace x 640 309 + 1)

end Shortest

/-- Write `digits * 10 ^ place` without an exponent. -/
def positional (digits : Nat) (place : Int) : String :=
  let text := digits.repr
  if 0 ≤ place then text ++ "".pushn '0' place.toNat
  else
    let places := (-place).toNat
    let padded := ("".pushn '0' (places + 1 - text.length) ++ text).toList
    let whole := padded.take (padded.length - places)
    String.ofList (whole ++ '.' :: padded.drop (padded.length - places))

/-- Remove zeros at the end of the digits, as long as they are fewer than `fuel`. -/
def stripZeros : Nat → Nat → Int → Nat × Int
  | 0, digits, place => (digits, place)
  | fuel + 1, digits, place =>
    if digits != 0 && digits % 10 == 0 then stripZeros fuel (digits / 10) (place + 1)
    else (digits, place)

/-- The shortest decimal text of a double, never with an exponent. -/
def shortestText (x : Float) : String :=
  match DoubleValue.ofFloat x with
  | .notANumber => "NaN"
  | .infinite negative => if negative then "-inf" else "inf"
  | .finite value =>
    let text :=
      if value.mantissa = 0 then "0"
      else
        let (digits, place) := Shortest.digits value
        let (digits, place) := stripZeros 20 digits place
        positional digits place
    if value.negative then "-" ++ text else text

end Worldsmith
