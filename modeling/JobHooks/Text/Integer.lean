/-!
# Integers in texts

Reading a text as an integer within bounds: decimal digits, with a plus sign in front or, where
negative numbers are admitted at all, a minus sign.  The digits are taken from left to right, and
the first one that is none, or that leads out of the bounds, decides what is wrong.
-/

namespace JobHooks.Text

set_option autoImplicit false

/-- Bounds of integers. -/
structure IntegerBounds where
  least : Int
  greatest : Int
  deriving Repr, DecidableEq, Inhabited

namespace IntegerBounds

/-- Numbers of 64 bits. -/
def word : IntegerBounds := ⟨0, 0xFFFFFFFFFFFFFFFF⟩

/-- Numbers of 64 bits with a sign. -/
def signedWord : IntegerBounds := ⟨-0x8000000000000000, 0x7FFFFFFFFFFFFFFF⟩

end IntegerBounds

/-- Why a text is no integer within bounds. -/
inductive IntegerFault where
  | empty
  | notDigit
  | tooLarge
  | tooSmall
  deriving Repr, DecidableEq, Inhabited

/-- The words for a fault. -/
def IntegerFault.message : IntegerFault → String
  | empty => "cannot parse integer from empty string"
  | notDigit => "invalid digit found in string"
  | tooLarge => "number too large to fit in target type"
  | tooSmall => "number too small to fit in target type"

/-- The number with one more digit behind it; digits of a negative number are taken away. -/
def pushDigit (bounds : IntegerBounds) (negative : Bool) (number : Int) (digit : Char) :
    Except IntegerFault Int :=
  if digit.isDigit then
    let value : Int := digit.toNat - '0'.toNat
    let next := if negative then 10 * number - value else 10 * number + value
    if next < bounds.least then .error .tooSmall
    else if bounds.greatest < next then .error .tooLarge
    else .ok next
  else .error .notDigit

/-- The integer that characters stand for. -/
def integerOf (bounds : IntegerBounds) : List Char → Except IntegerFault Int
  | [] => .error .empty
  | first :: rest =>
    let negative := first = '-' ∧ bounds.least < 0
    let digits := if negative ∨ first = '+' then rest else first :: rest
    if digits.isEmpty then .error .notDigit
    else digits.foldlM (pushDigit bounds negative) 0

/-- The integer that a text stands for. -/
def integer (bounds : IntegerBounds) (text : String) : Except IntegerFault Int :=
  integerOf bounds text.toList

end JobHooks.Text
