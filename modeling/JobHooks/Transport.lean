import JobHooks.Daemon.Basic
import JobHooks.Rpc.Call

/-!
# The transport

The transport reaches the daemon over a channel.  A poll dials only if there is no channel, and
keeps the channel that comes of it; a call uses the channel and never dials.  A call that finds the
daemon unavailable drops the channel, so that the next poll dials anew; any other result keeps it.

What happens beyond the channel is a `Link`, of which nothing is assumed.  `Transport.daemon` is the
daemon that the delivery worker sees.
-/

namespace JobHooks

set_option autoImplicit false

/-- What comes of a poll: the daemon is reached, or dialling it fails or takes too long. -/
inductive PollOutcome where
  | reached
  | failed
  | timedOut
  deriving Repr, DecidableEq, Inhabited

namespace PollOutcome

/-- Whether the daemon is reached. -/
def isReached : PollOutcome → Bool
  | reached => true
  | failed | timedOut => false

/-- What is reported of a poll. -/
def notices (socketPath : String) : PollOutcome → List Notice
  | reached => []
  | failed => [.dialFailed socketPath]
  | timedOut => [.dialTimedOut socketPath]

end PollOutcome

/-- What is beyond the channel, with states of type `σ` and replies of type `ρ`. -/
structure Link (σ ρ : Type) where
  /-- The path of the daemon's socket, as it is reported. -/
  socketPath : String
  /-- Tries for so many milliseconds to reach the daemon. -/
  dial : Nat → σ → PollOutcome × σ
  /-- Exchanges a request of a kind for a reply. -/
  exchange : HookType → Rpc.Request → σ → Except Panic (Except Rpc.Failure ρ) × σ

/-- A transport: what is beyond it, and whether it has a channel. -/
structure Transport (σ : Type) where
  beyond : σ
  hasChannel : Bool := false

/-- What comes of a call: success, a status or a panic, what was reported, the context and the place
for the reply as the call left them, and the transport after it. -/
structure TransportReaction (σ ρ : Type) where
  answer : Except Panic (Except Status Unit)
  notices : List Notice := []
  context : CallContext
  reply : ρ
  next : Transport σ

namespace Transport

variable {σ ρ : Type}

/-- The status of a call without a channel. -/
def noChannel : Status := ⟨.unavailable, "plugin daemon channel is not established"⟩

/-- Whether the daemon is reached: it is if there is a channel, and otherwise it is dialled. -/
def poll (link : Link σ ρ) (timeout : Nat) (transport : Transport σ) :
    PollOutcome × Transport σ :=
  if transport.hasChannel then (.reached, transport)
  else
    let (outcome, beyond) := link.dial timeout transport.beyond
    (outcome, { beyond, hasChannel := outcome.isReached })

/-- What a result that came over the channel means: a reply is put into its place, and of a failure
the cause is left in the context. -/
def complete (socketPath : String) (result : Except Rpc.Failure ρ) (context : CallContext)
    (reply : ρ) (beyond : σ) : TransportReaction σ ρ :=
  match result with
  | .ok received =>
    { answer := .ok (.ok ()), context, reply := received, next := { beyond, hasChannel := true } }
  | .error failure =>
    let status := failure.normalized
    { answer := .ok (.error status)
      notices := if status.isTransient then [.droppingChannel socketPath] else []
      context := context.withDetail failure.detail
      reply
      next := { beyond, hasChannel := !status.isTransient } }

/-- A call with a payload. -/
def call (link : Link σ ρ) (context : CallContext) (payload : Payload) (reply : ρ)
    (transport : Transport σ) : TransportReaction σ ρ :=
  if transport.hasChannel then
    match Rpc.limitOf context.timeout with
    | .error panic => { answer := .error panic, context, reply, next := transport }
    | .ok limit? =>
      let (result, beyond) :=
        link.exchange payload.hookType (.ofPayload limit? payload) transport.beyond
      match result with
      | .error panic =>
        { answer := .error panic, context, reply, next := { transport with beyond } }
      | .ok result => complete link.socketPath result context reply beyond
  else { answer := .ok (.error noChannel), context, reply, next := transport }

/-- A call as the worker sees it; the reply is dropped. -/
def callReaction [Inhabited ρ] (link : Link σ ρ) (context : CallContext) (payload : Payload)
    (transport : Transport σ) : CallReaction (Transport σ) :=
  let reaction := transport.call link context payload default
  { answer := reaction.answer
    notices := reaction.notices
    context := reaction.context
    next := reaction.next }

/-- The daemon that is reached over a transport. -/
def daemon [Inhabited ρ] (link : Link σ ρ) : Daemon (Transport σ) where
  poll := fun timeout transport =>
    let (outcome, next) := transport.poll link timeout
    { answer := .ok outcome.isReached, notices := outcome.notices link.socketPath, next }
  startHook := fun context jobs transport => transport.callReaction link context (.start jobs)
  finishHook := fun context jobs transport => transport.callReaction link context (.finish jobs)
  monitorHook := fun context target transport =>
    transport.callReaction link context (.monitor target)

end Transport

end JobHooks
