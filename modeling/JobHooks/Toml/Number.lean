import JobHooks.Decimal.Binary
import JobHooks.Toml.Quoted

/-!
# Numbers and moments in documents

Integers are decimal with an optional sign, or have a base in front and none; between two digits may
stand one underscore.  They must fit into 64 bits with a sign.  A floating-point number has a
fraction, an exponent or both, or is one of the two words for what is no finite number; one above
the largest finite number is refused.

Moments are dates and times.  They are checked, so that no month has a day it does not have, but
nothing is kept of them.
-/

namespace JobHooks.Toml

set_option autoImplicit false

open Decimal (FloatValue Scientific)

/-! ## Digits -/

/-- Whether a character is a decimal digit. -/
def isDecimal (character : Char) : Bool := '0' ≤ character && character ≤ '9'

/-- The value of a digit; what is no digit counts as zero. -/
def digitValue (digit : Char) : Nat := (hexValue? digit).getD 0

/-- The number that digits give in a base. -/
def numberOf (base : Nat) (digits : List Char) : Nat :=
  digits.foldl (fun number digit => base * number + digitValue digit) 0

/-- A digit behind another one; an underscore may stand between them. -/
def furtherDigit (isDigit : Char → Bool) : Scan Char
  | '_' :: next :: rest => if isDigit next then some (next, rest) else none
  | next :: rest => if isDigit next then some (next, rest) else none
  | [] => none

/-- One digit or more. -/
def digitRun (isDigit : Char → Bool) : Scan (List Char)
  | first :: rest =>
    if isDigit first then
      let (others, left) := many (furtherDigit isDigit) rest
      some (first :: others, left)
    else none
  | [] => none

/-- The digits of a decimal number: zero alone, or digits of which the first is not zero. -/
def wholeDigits : Scan (List Char)
  | '0' :: rest => some (['0'], rest)
  | input => digitRun isDecimal input

/-- Whether a minus sign stands in front, and what is left behind a sign. -/
def takeSign : List Char → Bool × List Char
  | '-' :: rest => (true, rest)
  | '+' :: rest => (false, rest)
  | input => (false, input)

/-! ## Integers -/

/-- Whether a number fits into 64 bits with a sign. -/
def inRange (number : Int) : Bool :=
  -0x8000000000000000 ≤ number && number < 0x8000000000000000

/-- A number with its base in front. -/
def basedInteger : Scan Int
  | '0' :: 'x' :: rest => based 16 (fun digit => (hexValue? digit).isSome) rest
  | '0' :: 'o' :: rest => based 8 (fun digit => '0' ≤ digit && digit ≤ '7') rest
  | '0' :: 'b' :: rest => based 2 (fun digit => digit == '0' || digit == '1') rest
  | _ => none
where
  based (base : Nat) (isDigit : Char → Bool) : Scan Int := fun input => do
    let (digits, rest) ← digitRun isDigit input
    let number : Int := numberOf base digits
    if inRange number then some (number, rest) else none

/-- A decimal number with an optional sign. -/
def decimalInteger : Scan Int := fun input => do
  let (negative, unsigned) := takeSign input
  let (digits, rest) ← wholeDigits unsigned
  let magnitude : Int := numberOf 10 digits
  let number := if negative then -magnitude else magnitude
  if inRange number then some (number, rest) else none

/-- An integer. -/
def integer : Scan Int := fun input => basedInteger input <|> decimalInteger input

/-! ## Floating-point numbers -/

/-- The digits behind a decimal point. -/
def fraction : Scan (List Char)
  | '.' :: rest => digitRun isDecimal rest
  | _ => none

/-- An exponent. -/
def exponent : Scan Int := fun input => do
  match input with
  | mark :: rest =>
    if mark = 'e' ∨ mark = 'E' then
      let (negative, unsigned) := takeSign rest
      let (digits, left) ← digitRun isDecimal unsigned
      let magnitude : Int := numberOf 10 digits
      some (if negative then -magnitude else magnitude, left)
    else none
  | [] => none

/-- The number nearest to a decimal.  Beyond the largest finite number lies the infinite one, but
only the negative one is a value. -/
def nearestFloat (negative : Bool) (decimal : Scientific) : Option FloatValue :=
  match Decimal.nearest decimal with
  | some magnitude => some (.finite negative magnitude)
  | none => if negative then some (.infinite true) else none

/-- A number with a fraction, an exponent or both. -/
def finiteFloat : Scan FloatValue := fun input => do
  let (negative, unsigned) := takeSign input
  let (whole, rest) ← wholeDigits unsigned
  let (places, power, left) ← (
    match fraction rest with
    | some (places, behind) =>
      match exponent behind with
      | some (power, left) => some (places, power, left)
      | none => some (places, 0, behind)
    | none => (exponent rest).map fun found => ([], found.1, found.2))
  let decimal : Scientific := ⟨numberOf 10 (whole ++ places), power - places.length⟩
  return (← nearestFloat negative decimal, left)

/-- A word for what is no finite number. -/
def specialFloat : Scan FloatValue := fun input =>
  let (negative, rest) := takeSign input
  match rest with
  | 'i' :: 'n' :: 'f' :: left => some (.infinite negative, left)
  | 'n' :: 'a' :: 'n' :: left => some (.notANumber, left)
  | _ => none

/-- A floating-point number. -/
def float : Scan FloatValue := fun input => finiteFloat input <|> specialFloat input

/-! ## Moments -/

/-- A number of two digits within bounds. -/
def twoDigits (least greatest : Nat) : Scan Nat
  | first :: second :: rest =>
    let number := numberOf 10 [first, second]
    if isDecimal first && isDecimal second && least ≤ number && number ≤ greatest then
      some (number, rest)
    else none
  | _ => none

/-- The number of days in a month. -/
def daysInMonth (year month : Nat) : Nat :=
  if month = 2 then
    if year % 4 = 0 ∧ (year % 100 ≠ 0 ∨ year % 400 = 0) then 29 else 28
  else if month = 4 ∨ month = 6 ∨ month = 9 ∨ month = 11 then 30
  else 31

/-- What is left behind a date. -/
def date : List Char → Option (List Char)
  | a :: b :: c :: d :: rest => do
    if !([a, b, c, d].all isDecimal) then none else
    let year := numberOf 10 [a, b, c, d]
    let (month, rest) ← twoDigits 1 12 (← exactly '-' rest)
    let (_, rest) ← twoDigits 1 (daysInMonth year month) (← exactly '-' rest)
    some rest
  | _ => none

/-- What is left behind a time of day, with parts of a second or without. -/
def timeOfDay (input : List Char) : Option (List Char) := do
  let (_, rest) ← twoDigits 0 23 input
  let (_, rest) ← twoDigits 0 59 (← exactly ':' rest)
  let (_, rest) ← twoDigits 0 60 (← exactly ':' rest)
  match rest with
  | '.' :: next :: left => if isDecimal next then some (left.dropWhile isDecimal) else some rest
  | _ => some rest

/-- What is left behind the distance of a time from the universal one. -/
def offset : List Char → Option (List Char)
  | [] => none
  | sign :: rest =>
    if sign = 'Z' ∨ sign = 'z' then some rest
    else if sign = '+' ∨ sign = '-' then do
      let (_, rest) ← twoDigits 0 23 rest
      let (_, rest) ← twoDigits 0 59 (← exactly ':' rest)
      some rest
    else none

/-- What is left behind a time of day that follows a date. -/
def timeBehindDate : List Char → Option (List Char)
  | [] => none
  | mark :: rest =>
    if mark = 'T' ∨ mark = 't' ∨ mark = ' ' then
      (timeOfDay rest).map fun left => (offset left).getD left
    else none

/-- What is left behind a date, a time of day, or both. -/
def moment (input : List Char) : Option (List Char) :=
  match date input with
  | some rest => some ((timeBehindDate rest).getD rest)
  | none => timeOfDay input

end JobHooks.Toml
