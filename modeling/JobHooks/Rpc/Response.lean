import JobHooks.Rpc.Frame
import JobHooks.Rpc.HttpStatus
import JobHooks.Rpc.Metadata
import JobHooks.Wire.Messages

/-!
# Responses

What comes back from a call.  Its parts are looked at in the order in which they arrive, and the
first one that tells of a failure decides: the compression, the status in front of the body, the
messages in the body, a failure of the body, its end, and the metadata behind it.  Where these hold
no status, the HTTP status stands for one.  A status of success in front of the body means that none
is looked for behind it.

The reply is the first message; a call without one has failed.  To look at a status may panic.
-/

namespace JobHooks.Rpc

set_option autoImplicit false

open Wire (Fault)

/-- What comes back from a call.  After its body it may break off with a status, or end with
metadata or without. -/
structure Response where
  httpStatus : Nat
  headers : Metadata
  body : Bytes
  failure? : Option Status := none
  trailers? : Option Metadata := none
  deriving Repr, DecidableEq, Inhabited

/-- Whether the status of the call is still to come when the body is read. -/
inductive Outlook where
  /-- It is to come; the HTTP status stands for it if it does not. -/
  | pending (httpStatus : Nat)
  /-- It has come. -/
  | settled
  deriving Repr, DecidableEq, Inhabited

/-- The failure that a refused frame means. -/
def FrameFault.status (outlook : Outlook) : FrameFault → Status
  | compressed =>
    ⟨.internal, "protocol error: received message with compressed-flag but no grpc-encoding was "
      ++ "specified"⟩
  | flag value =>
    ⟨.internal, "protocol error: received message with invalid compression flag: "
      ++ toString value ++ " (valid flags are 0 and 1)"
      ++ match outlook with
        | .pending httpStatus =>
          " while receiving response with status: " ++ statusText httpStatus
        | .settled => ", while sending request"⟩
  | tooLong length =>
    ⟨.outOfRange, "Error, decoded message length too large: found " ++ toString length
      ++ " bytes, the limit is: " ++ toString longestMessage ++ " bytes"⟩

namespace Response

variable {ρ : Type}

/-- The failure of a response whose messages are compressed. -/
def checkEncoding (response : Response) : Except Status Unit :=
  match response.headers.get? "grpc-encoding" with
  | none | some "identity" => .ok ()
  | some encoding =>
    .error ⟨.unimplemented, "Content is compressed with `" ++ encoding
      ++ "` which isn't supported"⟩

/-- Whether the status in front of the body settles the call, or its failure. -/
def checkHeaders (response : Response) : ExceptT Status (Except Panic) Outlook := do
  match ← response.headers.status? with
  | none => return .pending response.httpStatus
  | some status => if status.code = .ok then return .settled else throw status

/-- A message of the body as a reply. -/
def readMessage (decode : Bytes → Except Fault ρ) (message : Bytes) : Except Status ρ :=
  (decode message).mapError fun fault => ⟨.internal, fault.message⟩

/-- The replies in the body, and what has not been used up. -/
def readBody (decode : Bytes → Except Fault ρ) (outlook : Outlook) (response : Response) :
    Except Status (List ρ × Bytes) := do
  let (messages, ending) := scan response.body
  let replies ← messages.mapM (readMessage decode)
  let unread ← ending.mapError (FrameFault.status outlook)
  return (replies, unread)

/-- Whether the body ends as it should: it may not break off, nor end within a frame unless metadata
follow. -/
def checkEnd (response : Response) (unread : Bytes) : Except Status Unit :=
  match response.failure?, response.trailers? with
  | some status, _ => .error status
  | none, none =>
    if unread.isEmpty then .ok () else .error ⟨.internal, "Unexpected EOF decoding stream."⟩
  | none, some _ => .ok ()

/-- The status behind the body. -/
def checkTrailers (response : Response) : Outlook → ExceptT Status (Except Panic) Unit
  | .settled => return ()
  | .pending httpStatus => do
    match ← Metadata.status? (response.trailers?.getD []) with
    | some status => if status.code = .ok then return () else throw status
    | none => checkHttp httpStatus

/-- What a response means: a panic, or else a reply or a failure. -/
def outcome (decode : Bytes → Except Fault ρ) (response : Response) :
    ExceptT Status (Except Panic) ρ := do
  response.checkEncoding
  let outlook ← response.checkHeaders
  let (replies, unread) ← response.readBody decode outlook
  response.checkEnd unread
  response.checkTrailers outlook
  match replies with
  | reply :: _ => return reply
  | [] => throw ⟨.internal, "Missing response message."⟩

/-- The response of a daemon that has accepted a call: an empty reply. -/
def accepted : Response where
  httpStatus := 200
  headers := []
  body := frame []
  trailers? := some [("grpc-status", "0")]

/-- The response of a daemon that has refused a call. -/
def refused (status : Status) : Response where
  httpStatus := 200
  headers := .ofStatus status
  body := []

end Response

end JobHooks.Rpc
