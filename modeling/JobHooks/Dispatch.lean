import JobHooks.Daemon.Basic
import JobHooks.Notice

/-!
# Dispatch

Which call of the daemon carries which hook.  There is one entry for each kind of hook; it accepts
only payloads of its own kind and panics at any other, before the daemon has been called at all.
`Daemon.dispatch` uses the entry of the payload's own kind, which never does so.
-/

namespace JobHooks

set_option autoImplicit false

/-- A call as the daemon receives it: which one, the context with which it begins, and the request.
-/
structure Call where
  kind : HookType
  context : CallContext
  request : Payload
  deriving Repr, DecidableEq, Inhabited

/-- What comes of sending a payload: whether the daemon was called, what was reported before and
during the call, and what the call came to. -/
structure Transmission (σ : Type) where
  call? : Option Call
  notices : List Notice
  reaction : CallReaction σ

namespace HookType

/-- The name of a kind where an entry refuses a payload. -/
def entryName : HookType → String
  | start => "start"
  | finish => "end"
  | monitor => "job monitor"

/-- What an entry says of a payload of another kind. -/
def mismatch (entry found : HookType) : Panic where
  text := "internal error: entered unreachable code: " ++ entry.entryName
    ++ " hook entry invoked with " ++ found.name ++ " payload"

end HookType

namespace Daemon

variable {σ : Type}

/-- A payload that an entry refuses: nothing is called, and nothing changes. -/
def refuse (entry : HookType) (context : CallContext) (payload : Payload) (state : σ) :
    Transmission σ where
  call? := none
  notices := []
  reaction := { answer := .error (entry.mismatch payload.hookType), next := state, context }

/-- A payload that an entry passes on to the daemon. -/
def pass (kind : HookType) (context : CallContext) (payload : Payload)
    (reaction : CallReaction σ) : Transmission σ where
  call? := some ⟨kind, context, payload⟩
  notices := .sending kind :: reaction.notices
  reaction

/-- What the entry of a kind of hook does with a payload. -/
def send (daemon : Daemon σ) (entry : HookType) (context : CallContext) (payload : Payload)
    (state : σ) : Transmission σ :=
  match entry, payload with
  | .start, .start jobs => pass .start context payload (daemon.startHook context jobs state)
  | .finish, .finish jobs => pass .finish context payload (daemon.finishHook context jobs state)
  | .monitor, .monitor target =>
    pass .monitor context payload (daemon.monitorHook context target state)
  | entry, payload => refuse entry context payload state

/-- Sends a payload through the entry of its own kind. -/
def dispatch (daemon : Daemon σ) (context : CallContext) (payload : Payload) (state : σ) :
    Transmission σ :=
  daemon.send payload.hookType context payload state

end Daemon

end JobHooks
