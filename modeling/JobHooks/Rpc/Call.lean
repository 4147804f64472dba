import JobHooks.Rpc.Request
import JobHooks.Rpc.Response

/-!
# Calls

One call over a connection.  A connection may not be ready, so that nothing is sent; it may break
while the request is under way; or it brings a response, which then tells of success or failure.  To
read the response may panic.

A failure carries, beside its status, what has caused it: errors each of which was caused by the
next one.  Errors of the transport itself and of input and output are told apart from others.
-/

namespace JobHooks.Rpc

set_option autoImplicit false

/-! ## Failures -/

/-- What kind of error a cause is. -/
inductive CauseKind where
  | transport
  | inputOutput
  | other
  deriving Repr, DecidableEq, Inhabited

/-- An error that has caused a failure. -/
structure Cause where
  kind : CauseKind
  text : String
  deriving Repr, DecidableEq, Inhabited

/-- A failed call: its status, and its causes, the direct one first. -/
structure Failure where
  status : Status
  causes : List Cause := []
  deriving Repr, DecidableEq, Inhabited

namespace Failure

/-- A connection that is not ready. -/
def notReady (reason : String) : Failure :=
  { status := ⟨.unavailable, "Service was not ready: " ++ reason⟩ }

/-- An error that says nothing of a status. -/
def ofError (text : String) : Failure :=
  { status := ⟨.unknown, text⟩, causes := [⟨.other, text⟩] }

/-- A status that has no cause. -/
def ofStatus (status : Status) : Failure := { status }

/-- A call that took longer than it may. -/
def timedOut : Failure :=
  { status := ⟨.cancelled, "Timeout expired"⟩, causes := [⟨.transport, "transport error"⟩] }

/-- A call on a connection that is gone. -/
def broken : Failure :=
  { status := ⟨.unknown, "transport error"⟩, causes := [⟨.transport, "transport error"⟩] }

/-- What a failure is caused by, in messages: its direct cause, or its code. -/
def detail (failure : Failure) : String :=
  match failure.causes with
  | cause :: _ => cause.text
  | [] => "grpc status " ++ failure.status.code.name

/-- The status of a failure.  Where the direct cause is an error of the transport or of input and
output, the daemon could not be reached, whatever the code says. -/
def normalized (failure : Failure) : Status :=
  match failure.causes with
  | ⟨.transport, _⟩ :: _ | ⟨.inputOutput, _⟩ :: _ => ⟨.unavailable, failure.status.message⟩
  | _ => failure.status

end Failure

/-! ## Calls -/

/-- What a connection makes of a request. -/
inductive Connection where
  | notReady (reason : String)
  | failing (failure : Failure)
  | answering (response : Response)
  deriving Repr, DecidableEq, Inhabited

/-- What comes of a call: the request, if it was sent, and a panic, or else a reply or a failure. -/
structure Exchange (ρ : Type) where
  sent? : Option Request
  result : Except Panic (Except Failure ρ)

/-- A call with a request over a connection. -/
def call {ρ : Type} (decode : Bytes → Except Wire.Fault ρ) (request : Request) :
    Connection → Exchange ρ
  | .notReady reason => ⟨none, .ok (.error (.notReady reason))⟩
  | .failing failure => ⟨some request, .ok (.error failure)⟩
  | .answering response =>
    ⟨some request, (response.outcome decode).run.map (·.mapError .ofStatus)⟩

end JobHooks.Rpc
