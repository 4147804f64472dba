import JobHooks.Panic
import JobHooks.Rpc.Frame
import JobHooks.Rpc.Timeout
import JobHooks.Wire.Messages

/-!
# Requests

A payload travels to the plugin daemon as a request: the path names the call, and the body holds the
message in one frame.  A time limit travels beside it.  A time limit that cannot be expressed makes
the caller panic before anything is sent.
-/

namespace JobHooks.Rpc

set_option autoImplicit false

/-- The service that the plugin daemon offers. -/
def serviceName : String := "crane.grpc.plugin.CranePluginD"

/-- The path of the call that carries hooks of a kind. -/
def callPath (kind : HookType) : String := "/" ++ serviceName ++ "/" ++ kind.callName

/-- The kind of hooks whose call has a path. -/
def kindOfPath? (path : String) : Option HookType :=
  HookType.all.find? fun kind => callPath kind == path

/-- A request on its way to the daemon. -/
structure Request where
  path : String
  limit? : Option TimeLimit
  body : Bytes
  deriving Repr, DecidableEq, Inhabited

namespace Request

/-- The names and values that travel in front of the body. -/
def headers (request : Request) : List (String × String) :=
  [("te", "trailers"), ("content-type", "application/grpc")]
    ++ (request.limit?.map fun limit => ("grpc-timeout", limit.text)).toList

/-- The request that carries a payload. -/
def ofPayload (limit? : Option TimeLimit) (payload : Payload) : Request where
  path := callPath payload.hookType
  limit? := limit?
  body := frame payload.message

/-- The payload that a request carries, as the daemon reads it. -/
def payload? (request : Request) : Option Payload :=
  match kindOfPath? request.path, scan request.body with
  | some kind, ([message], .ok []) => (Payload.ofMessage kind message).toOption
  | _, _ => none

end Request

/-- The time limit of a call that may take so many milliseconds, or any time. -/
def limitOf (timeout : Option Nat) : Except Panic (Option TimeLimit) :=
  match timeout with
  | none => .ok none
  | some milliseconds =>
    match TimeLimit.ofMilliseconds? milliseconds with
    | some limit => .ok (some limit)
    | none => .error ⟨"duration is unrealistically large"⟩

end JobHooks.Rpc
