import JobHooks.Client
import JobHooks.Daemon.Live
import JobHooks.Delivery.Settings

/-!
# Clients of a live daemon

A client that delivers over a transport to the daemon that a configuration names, and waiting until
it has delivered.  Waiting ends when every event is done with, when the time for it is used up by
pauses of the worker and by calls that are never answered, or after a given number of passes.  The
time may be over while such a call is still under way.
-/

namespace JobHooks

set_option autoImplicit false

namespace Client

variable {σ : Type}

/-- A client of the daemon that a configuration names, with the daemon that its worker sees. -/
def connect (plugin : PluginConfig) (site : Site) :
    Except ConfigError (Daemon (Transport Site) × ClientStep (Transport Site)) := do
  let link ← Site.linkOf plugin
  let step := start (DeliverySettings.ofConfig plugin) { beyond := site }
  return (Transport.daemon link, { step with notices := [.clientStarting plugin.endpoint] })

/-- Hands a payload over as the operation for its kind does. -/
def submit (client : Client σ) (now : Int64) : Payload → ClientStep σ
  | .start jobs => client.startJobs jobs
  | .finish jobs => client.finishJobs now jobs
  | .monitor target => client.monitorJob target

/-- How many events have been accepted or rejected. -/
def done (client : Client σ) : Nat :=
  client.stats.sent.toNat + client.stats.rejected.toNat

end Client

/-! ## Waiting -/

namespace Trace

/-- The pauses in a trace, in milliseconds. -/
def pauses (trace : Trace) : Nat :=
  trace.foldr (fun
    | .paused duration, later => duration + later
    | _, later => later) 0

/-- A trace in two parts: the second one begins when the last call has been announced. -/
def cutAtCall (trace : Trace) : Trace × Trace :=
  let behind := trace.reverse.takeWhile fun
    | .noted (.sending _) => false
    | _ => true
  (trace.take (trace.length - behind.length), behind.reverse)

end Trace

/-- What is reported of the end of a client.  That it ends is told before what comes of a call that
is still under way. -/
def ClientStep.closing {σ : Type} (step : ClientStep σ) : List Notice :=
  let (early, late) := step.trace.cutAtCall
  early.notices ++ step.notices ++ late.notices

/-- How long somebody waits for a client: so many milliseconds, and the daemon tells how many of
them were spent on answers that never came. -/
structure Patience (σ : Type) where
  left : Nat
  waited : σ → Nat

namespace Patience

variable {σ : Type}

/-- How long calls made the worker wait on the way from one client to the next. -/
def calling (patience : Patience σ) (client next : Client σ) : Nat :=
  patience.waited next.worker.daemon - patience.waited client.worker.daemon

/-- What is left behind a pass. -/
def behind (patience : Patience σ) (client : Client σ) (step : ClientStep σ) : Patience σ :=
  { patience with
    left := patience.left - patience.calling client step.client - step.trace.pauses }

end Patience

/-- What waiting for a client comes to.  It may be over while the daemon is still called; the client
is then the one before the pass in which that happens. -/
structure Wait (σ : Type) extends ClientStep σ where
  isCalling : Bool := false

/-- Shuts the client down when the wait is over. -/
def Wait.shutdown {σ : Type} (daemon : Daemon σ) (settings : DeliverySettings) (wait : Wait σ) :
    ClientStep σ :=
  if wait.isCalling then wait.client.shutdown daemon settings else wait.client.retire

namespace Client

variable {σ : Type}

/-- Lets the worker go on from poll to poll, `limit` times at most, until so many events are done
with, there is no patience left, or the worker is no longer there.  Without a patience the time is
not limited. -/
def await (daemon : Daemon σ) (settings : DeliverySettings) (events : Nat) :
    Nat → Option (Patience σ) → Client σ → Wait σ
  | 0, _, client => { client }
  | limit + 1, patience?, client =>
    if events ≤ client.done ∨ patience?.any (·.left == 0) ∨ client.state ≠ .polling then { client }
    else
      let step := client.answerPoll daemon settings
      if patience?.any fun patience => patience.left < patience.calling client step.client then
        { client, isCalling := true }
      else
        let rest :=
          await daemon settings events limit (patience?.map (·.behind client step)) step.client
        { rest with trace := step.trace ++ rest.trace }

end Client

/-- As many passes as can change anything: one for each reply that may be used up, and one more. -/
def Site.passLimit (site : Site) (events : Nat) : Nat := site.replies.length + events + 1

end JobHooks
