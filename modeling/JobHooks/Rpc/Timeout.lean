/-!
# Time limits of calls

The time a call may take travels as a number of at most eight digits and a unit.  `ofMilliseconds`
takes the finest unit in which the number is short enough, and drops what that unit cannot express.
A time of more than 99999999 hours cannot be expressed at all.
-/

namespace JobHooks.Rpc

set_option autoImplicit false

/-- The units of time limits. -/
inductive TimeUnit where
  | nanosecond
  | microsecond
  | millisecond
  | second
  | minute
  | hour
  deriving Repr, DecidableEq, Inhabited

namespace TimeUnit

/-- The units, the finest one first. -/
def all : List TimeUnit := [nanosecond, microsecond, millisecond, second, minute, hour]

/-- The letter of a unit. -/
def letter : TimeUnit → Char
  | nanosecond => 'n'
  | microsecond => 'u'
  | millisecond => 'm'
  | second => 'S'
  | minute => 'M'
  | hour => 'H'

/-- The length of a unit in nanoseconds. -/
def nanoseconds : TimeUnit → Nat
  | nanosecond => 1
  | microsecond => 1000
  | millisecond => 1000000
  | second => 1000000000
  | minute => 60 * 1000000000
  | hour => 60 * 60 * 1000000000

end TimeUnit

/-- The greatest number of eight digits. -/
def greatestAmount : Nat := 99999999

/-- A time limit: so many units. -/
structure TimeLimit where
  amount : Nat
  unit : TimeUnit
  deriving Repr, DecidableEq, Inhabited

namespace TimeLimit

/-- A time limit as it travels. -/
def text (limit : TimeLimit) : String := toString limit.amount ++ String.singleton limit.unit.letter

/-- The length of a time limit in nanoseconds. -/
def nanoseconds (limit : TimeLimit) : Nat := limit.amount * limit.unit.nanoseconds

/-- The length of a time limit in milliseconds, without what is less than one. -/
def milliseconds (limit : TimeLimit) : Nat := limit.nanoseconds / 1000000

/-- A number of nanoseconds in a unit, if the number of units is short enough. -/
def inUnit? (nanoseconds : Nat) (unit : TimeUnit) : Option TimeLimit :=
  let amount := nanoseconds / unit.nanoseconds
  if amount ≤ greatestAmount then some ⟨amount, unit⟩ else none

/-- A number of milliseconds as a time limit. -/
def ofMilliseconds? (milliseconds : Nat) : Option TimeLimit :=
  TimeUnit.all.findSome? (inUnit? (milliseconds * 1000000))

end TimeLimit

end JobHooks.Rpc
