import JobHooks.Event
import JobHooks.Notice
import JobHooks.Panic
import JobHooks.Status
import JobHooks.Wire.Messages

/-!
# The plugin daemon as seen by the delivery worker

The worker asks a daemon whether it can be reached, and calls it with hooks.  A `Daemon` is any way
of answering, with a state of its own: nothing is assumed of its answers.  Besides answering, it may
report something, and it may have `Effects` on the side of the worker, since others act while the
worker waits for it: events may be handed over, and the request to stop may be given or taken back.
It may also panic, which ends the worker; what it did before remains done.

Each call has a `CallContext` of its own, in which the daemon's side may leave a detail on a
failure.
-/

namespace JobHooks

set_option autoImplicit false

/-- What belongs to a single call: how many milliseconds it may take, if that is limited, and the
detail on its failure, if one was left. -/
structure CallContext where
  timeout : Option Nat
  detail? : Option String := none
  deriving Repr, DecidableEq, Inhabited

namespace CallContext

/-- The context with which a call begins. -/
def fresh (timeout : Option Nat) : CallContext := { timeout }

/-- The detail on a failure; empty if none was left. -/
def detail (context : CallContext) : String := context.detail?.getD ""

/-- The context after a detail was left; it replaces an earlier one. -/
def withDetail (context : CallContext) (detail : String) : CallContext :=
  { context with detail? := some detail }

end CallContext

/-- What happens on the side of the worker while it waits for the daemon. -/
structure Effects where
  /-- What is handed over, in this order. -/
  arrivals : List Payload := []
  /-- What becomes of the request to stop, if anything. -/
  stop? : Option Bool := none
  deriving Repr, DecidableEq, Inhabited

/-- What comes of asking a daemon: an answer or a panic, what it reported meanwhile, its effects,
and its next state. -/
structure Reaction (σ α : Type) where
  answer : Except Panic α
  notices : List Notice := []
  effects : Effects := {}
  next : σ

/-- What comes of a call: success or a status, and the context as the call left it. -/
structure CallReaction (σ : Type) extends Reaction σ (Except Status Unit) where
  context : CallContext

/-- A way of answering the worker, with states of type `σ`. -/
structure Daemon (σ : Type) where
  /-- Waits up to the given number of milliseconds for the daemon to be reachable. -/
  poll : Nat → σ → Reaction σ Bool
  startHook : CallContext → List JobInfo → σ → CallReaction σ
  finishHook : CallContext → List JobInfo → σ → CallReaction σ
  monitorHook : CallContext → MonitorTarget → σ → CallReaction σ

/-! ## A daemon that cannot reach the request to stop -/

namespace Effects

/-- The effects but for what becomes of the request to stop. -/
def withoutStop (effects : Effects) : Effects := { effects with stop? := none }

end Effects

namespace Daemon

variable {σ : Type}

/-- A call whose effects leave the request to stop alone. -/
def sparing (reaction : CallReaction σ) : CallReaction σ :=
  { reaction with effects := reaction.effects.withoutStop }

/-- The same daemon for a worker whose request to stop is out of its reach. -/
def withoutStop (daemon : Daemon σ) : Daemon σ where
  poll := fun timeout state =>
    let reaction := daemon.poll timeout state
    { reaction with effects := reaction.effects.withoutStop }
  startHook := fun context jobs state => sparing (daemon.startHook context jobs state)
  finishHook := fun context jobs state => sparing (daemon.finishHook context jobs state)
  monitorHook := fun context target state => sparing (daemon.monitorHook context target state)

end Daemon

end JobHooks
