/-!
# Statuses of calls

A call to the daemon either succeeds or fails with a `Status`: one of seventeen codes and a text.
Only the code `unavailable` means that the daemon could not be reached; such a failure is transient,
and every other one is a rejection.
-/

namespace JobHooks

set_option autoImplicit false

/-- The codes with which a call can end. -/
inductive Code where
  | ok
  | cancelled
  | unknown
  | invalidArgument
  | deadlineExceeded
  | notFound
  | alreadyExists
  | permissionDenied
  | resourceExhausted
  | failedPrecondition
  | aborted
  | outOfRange
  | unimplemented
  | internal
  | unavailable
  | dataLoss
  | unauthenticated
  deriving Repr, DecidableEq, Inhabited

namespace Code

/-- The codes in the order of their numbers. -/
def all : List Code :=
  [ok, cancelled, unknown, invalidArgument, deadlineExceeded, notFound, alreadyExists,
    permissionDenied, resourceExhausted, failedPrecondition, aborted, outOfRange, unimplemented,
    internal, unavailable, dataLoss, unauthenticated]

/-- The number of a code on the wire. -/
def number : Code → Nat
  | ok => 0
  | cancelled => 1
  | unknown => 2
  | invalidArgument => 3
  | deadlineExceeded => 4
  | notFound => 5
  | alreadyExists => 6
  | permissionDenied => 7
  | resourceExhausted => 8
  | failedPrecondition => 9
  | aborted => 10
  | outOfRange => 11
  | unimplemented => 12
  | internal => 13
  | unavailable => 14
  | dataLoss => 15
  | unauthenticated => 16

/-- The name of a code in log entries. -/
def name : Code → String
  | ok => "Ok"
  | cancelled => "Cancelled"
  | unknown => "Unknown"
  | invalidArgument => "InvalidArgument"
  | deadlineExceeded => "DeadlineExceeded"
  | notFound => "NotFound"
  | alreadyExists => "AlreadyExists"
  | permissionDenied => "PermissionDenied"
  | resourceExhausted => "ResourceExhausted"
  | failedPrecondition => "FailedPrecondition"
  | aborted => "Aborted"
  | outOfRange => "OutOfRange"
  | unimplemented => "Unimplemented"
  | internal => "Internal"
  | unavailable => "Unavailable"
  | dataLoss => "DataLoss"
  | unauthenticated => "Unauthenticated"

/-- The code with a number; a number without a code stands for `unknown`. -/
def ofNumber (number : Int) : Code :=
  (all.find? fun code => (code.number : Int) == number).getD .unknown

end Code

/-- Why a call failed.  The code `ok` in a failure is still a failure. -/
structure Status where
  code : Code
  message : String
  deriving Repr, DecidableEq, Inhabited

namespace Status

/-- Whether the failure means that the daemon could not be reached, so that trying again may help.
-/
def isTransient (status : Status) : Bool :=
  status.code == .unavailable

end Status

end JobHooks
