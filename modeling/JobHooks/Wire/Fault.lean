import JobHooks.Wire.Varint

/-!
# Wire types and what can be wrong with a message

Each field of a message is announced by a key: the number of the field and the form of what follows,
its `WireType`.  A message that cannot be read has a `Fault`: what was wrong, and the fields in
which the reader was, from the innermost outwards.  `Fault.message` is the one place where the
wording is.
-/

namespace JobHooks.Wire

set_option autoImplicit false

/-- The forms that what follows a key can have. -/
inductive WireType where
  | varint
  | fixed64
  | lengthDelimited
  | startGroup
  | endGroup
  | fixed32
  deriving Repr, DecidableEq, Inhabited

namespace WireType

/-- The three bits that stand for a form in a key. -/
def number : WireType → Nat
  | varint => 0
  | fixed64 => 1
  | lengthDelimited => 2
  | startGroup => 3
  | endGroup => 4
  | fixed32 => 5

/-- The form that three bits stand for; six and seven stand for none. -/
def ofNumber? : Nat → Option WireType
  | 0 => some varint
  | 1 => some fixed64
  | 2 => some lengthDelimited
  | 3 => some startGroup
  | 4 => some endGroup
  | 5 => some fixed32
  | _ => none

/-- The name of a form in messages. -/
def name : WireType → String
  | varint => "Varint"
  | fixed64 => "SixtyFourBit"
  | lengthDelimited => "LengthDelimited"
  | startGroup => "StartGroup"
  | endGroup => "EndGroup"
  | fixed32 => "ThirtyTwoBit"

end WireType

/-- What can be wrong at one place of a message. -/
inductive FaultCause where
  | invalidVarint
  | bufferUnderflow
  | delimitedLengthExceeded
  | zeroFieldNumber
  | keyTooLarge (key : Nat)
  | unknownWireType (number : Nat)
  | wireTypeMismatch (found expected : WireType)
  | unexpectedEndGroup
  | recursionLimit
  | notUtf8
  deriving Repr, DecidableEq, Inhabited

/-- What is said of a cause. -/
def FaultCause.message : FaultCause → String
  | invalidVarint => "invalid varint"
  | bufferUnderflow => "buffer underflow"
  | delimitedLengthExceeded => "delimited length exceeded"
  | zeroFieldNumber => "invalid tag value: 0"
  | keyTooLarge key => "invalid key value: " ++ toString key
  | unknownWireType number => "invalid wire type value: " ++ toString number
  | wireTypeMismatch found expected =>
    "invalid wire type: " ++ found.name ++ " (expected " ++ expected.name ++ ")"
  | unexpectedEndGroup => "unexpected end group tag"
  | recursionLimit => "recursion limit reached"
  | notUtf8 => "invalid string value: data is not UTF-8 encoded"

/-- A field inside a message, by their names. -/
structure FieldPath where
  message : String
  field : String
  deriving Repr, DecidableEq, Inhabited

/-- Why a message could not be read, and in which fields, innermost first. -/
structure Fault where
  cause : FaultCause
  path : List FieldPath := []
  deriving Repr, DecidableEq, Inhabited

namespace Fault

/-- The same fault seen from one field further out. -/
def within (fault : Fault) (place : FieldPath) : Fault :=
  { fault with path := fault.path ++ [place] }

/-- What is said of a message that could not be read. -/
def message (fault : Fault) : String :=
  "failed to decode Protobuf message: "
    ++ String.join (fault.path.map fun place => place.message ++ "." ++ place.field ++ ": ")
    ++ fault.cause.message

end Fault

end JobHooks.Wire
