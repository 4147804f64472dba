/-!
# Binary floating-point numbers, exactly

A finite number of double precision is `significand * 2 ^ exponent`, and `Binary` holds it in that
form, so that everything said about it is integer arithmetic.  `nearest` rounds a decimal number to
such a number, ties to the even significand; beyond the largest finite number there is none.

`shortest` goes the other way.  A decimal identifies a number if it lies in the interval of those
that round to it; among the decimals with the fewest digits that do, the one closest to the number
is taken, and the larger of two that are equally close.
-/

namespace JobHooks.Decimal

set_option autoImplicit false

/-- A number `significand * 2 ^ exponent`. -/
structure Binary where
  significand : Nat
  exponent : Int
  deriving Repr, DecidableEq, Inhabited

/-- A number `digits * 10 ^ exponent`. -/
structure Scientific where
  digits : Nat
  exponent : Int
  deriving Repr, DecidableEq, Inhabited

/-- The exponent of the least positive number. -/
def leastExponent : Int := -1074

/-- The largest exponent of a number whose significand has all its 53 bits. -/
def greatestExponent : Int := 971

/-- The least significand that has all its 53 bits. -/
def fullSignificand : Nat := 0x10000000000000

/-- The quotient rounded to the nearest natural number, ties to the even one. -/
def roundDiv (numerator denominator : Nat) : Nat :=
  let quotient := numerator / denominator
  let twice := 2 * (numerator % denominator)
  if twice < denominator then quotient
  else if denominator < twice then quotient + 1
  else if quotient % 2 = 0 then quotient
  else quotient + 1

/-- The quotient `numerator / denominator`, not zero, rounded to a number with the given exponent.
-/
def roundAt (numerator denominator : Nat) (exponent : Int) : Nat :=
  roundDiv (numerator * Nat.pow 2 (-exponent).toNat) (denominator * Nat.pow 2 exponent.toNat)

/-- The number nearest to `numerator / denominator`; none if that is beyond the largest. -/
def nearestQuotient (numerator denominator : Nat) : Option Binary :=
  let guess : Int := (numerator.log2 : Int) - denominator.log2 - 52
  let tooLow :=
    numerator * Nat.pow 2 (-guess).toNat < fullSignificand * (denominator * Nat.pow 2 guess.toNat)
  let exponent := max leastExponent (if tooLow then guess - 1 else guess)
  let significand := roundAt numerator denominator exponent
  let rounded : Binary :=
    if significand = 2 * fullSignificand then ⟨fullSignificand, exponent + 1⟩
    else ⟨significand, exponent⟩
  if greatestExponent < rounded.exponent then none else some rounded

/-- The number of decimal digits of a number; zero has none. -/
def digitCount (number : Nat) : Nat := if number = 0 then 0 else (Nat.toDigits 10 number).length

/-- The number nearest to a decimal; none if that is beyond the largest.  A decimal far outside the
range of all numbers is not multiplied out. -/
def nearest (decimal : Scientific) : Option Binary :=
  let magnitude := (digitCount decimal.digits : Int) + decimal.exponent
  if decimal.digits = 0 ∨ magnitude < -400 then some ⟨0, leastExponent⟩
  else if 400 < magnitude then none
  else
    nearestQuotient (decimal.digits * Nat.pow 10 decimal.exponent.toNat)
      (Nat.pow 10 (-decimal.exponent).toNat)

/-- Compares `left * 10 ^ power` with `right * 2 ^ exponent`. -/
def compareScaled (left : Nat) (power : Int) (right : Nat) (exponent : Int) : Ordering :=
  compare (left * Nat.pow 10 power.toNat * Nat.pow 2 (-exponent).toNat)
    (right * Nat.pow 2 exponent.toNat * Nat.pow 10 (-power).toNat)

namespace Binary

/-- Whether a decimal rounds to a number: it lies between the midpoints to both neighbours, these
included if the significand is even.  Below a power of two the neighbour is half as far away. -/
def identifiedBy (number : Binary) (decimal : Scientific) : Bool :=
  let narrow := number.significand = fullSignificand ∧ leastExponent < number.exponent
  let low := if narrow then 4 * number.significand - 1 else 4 * number.significand - 2
  let high := 4 * number.significand + 2
  let even := number.significand % 2 == 0
  let toLow := compareScaled decimal.digits decimal.exponent low (number.exponent - 2)
  let toHigh := compareScaled decimal.digits decimal.exponent high (number.exponent - 2)
  (toLow == .gt || (even && toLow == .eq)) && (toHigh == .lt || (even && toHigh == .eq))

/-- The decimals next to a number on the grid of a power of ten, the lower one first. -/
def neighbours (number : Binary) (power : Int) : Nat × Nat :=
  let low := number.significand * Nat.pow 2 number.exponent.toNat * Nat.pow 10 (-power).toNat
    / (Nat.pow 10 power.toNat * Nat.pow 2 (-number.exponent).toNat)
  (low, low + 1)

/-- The decimal on the grid of a power of ten that identifies a number and is closest to it. -/
def onGrid? (number : Binary) (power : Int) : Option Scientific :=
  let (low, high) := number.neighbours power
  match number.identifiedBy ⟨low, power⟩, number.identifiedBy ⟨high, power⟩ with
  | false, false => none
  | true, false => some ⟨low, power⟩
  | false, true => some ⟨high, power⟩
  | true, true =>
    -- Twice the number lies below the sum of the two exactly if the lower one is closer.
    match compareScaled (low + high) power (2 * number.significand) number.exponent with
    | .gt => some ⟨low, power⟩
    | _ => some ⟨high, power⟩

/-- The power of ten just above a number that is not zero. -/
def decimalMagnitude (number : Binary) : Int :=
  if 0 ≤ number.exponent then
    digitCount (number.significand * Nat.pow 2 number.exponent.toNat)
  else
    let scaled := number.significand * Nat.pow 10 400 / Nat.pow 2 (-number.exponent).toNat
    (digitCount scaled : Int) - 400

/-- The decimal with the fewest digits that identifies a number.  The coarsest grid is that of the
power of ten just above the number, for a number next to that power.  Seventeen digits always
suffice; the number itself, multiplied out, stands behind them. -/
def shortest (number : Binary) : Scientific :=
  if number.significand = 0 then ⟨0, 0⟩
  else
    let magnitude := number.decimalMagnitude
    match (List.range 18).findSome? fun (count : Nat) => number.onGrid? (magnitude - count) with
    | some decimal => decimal
    | none =>
      if 0 ≤ number.exponent then ⟨number.significand * Nat.pow 2 number.exponent.toNat, 0⟩
      else ⟨number.significand * Nat.pow 5 (-number.exponent).toNat, number.exponent⟩

end Binary

namespace Scientific

/-- A decimal written out in full, without an exponent and with at least one digit behind the
point. -/
def plain (decimal : Scientific) : List Char :=
  let digits := Nat.toDigits 10 decimal.digits
  if 0 ≤ decimal.exponent then
    let zeros := if decimal.digits = 0 then 0 else decimal.exponent.toNat
    digits ++ List.replicate zeros '0' ++ ['.', '0']
  else
    let places := (-decimal.exponent).toNat
    let padded := List.replicate (places + 1 - digits.length) '0' ++ digits
    padded.take (padded.length - places) ++ ['.'] ++ padded.drop (padded.length - places)

end Scientific

/-- A number as a document may give it. -/
inductive FloatValue where
  | finite (negative : Bool) (magnitude : Binary)
  | infinite (negative : Bool)
  | notANumber
  deriving Repr, DecidableEq, Inhabited

/-- A floating-point number in messages: with the fewest digits that identify it, never with an
exponent, and always with a point unless it is no finite number. -/
def FloatValue.text : FloatValue → String
  | finite negative magnitude =>
    String.ofList ((if negative then ['-'] else []) ++ magnitude.shortest.plain)
  | infinite negative => if negative then "-inf" else "inf"
  | notANumber => "NaN"

end JobHooks.Decimal
