import JobHooks.Delivery.Settings
import JobHooks.Dispatch
import JobHooks.Monitor
import JobHooks.Queue

/-!
# The delivery worker

The worker is the only one who takes events from the queue.  In one pass it looks whether it is to
stop, asks whether the daemon can be reached, takes everything that is waiting, and sends it front
to back.  An event that the daemon accepts or rejects is done with; an event that finds the daemon
unreachable ends the pass, and it and all behind it go back to the end of the queue in their order.

`Worker.pass` is one pass without the pause that follows it, `Worker.runFor` a given number of
passes at most, pauses included.  Both return, beside the new state, the `Trace` of what happened:
polls, batches, calls, notices and pauses in the order of time.  Whatever others did while the worker
waited for an answer is recorded with that answer.
-/

namespace JobHooks

set_option autoImplicit false

/-- Running totals of the worker; they wrap around at `2 ^ 64`. -/
structure DeliveryStats where
  dequeued : UInt64 := 0
  sent : UInt64 := 0
  rejected : UInt64 := 0
  requeued : UInt64 := 0
  deriving Repr, DecidableEq, Inhabited

/-- What a pass came to. -/
inductive PassOutcome where
  /-- The worker was asked to stop before the pass. -/
  | stopped
  /-- The daemon could not be reached, and nothing was taken. -/
  | disconnected
  /-- Nothing was waiting. -/
  | idle
  /-- Every event taken was accepted or rejected. -/
  | drained (sent rejected : Nat)
  /-- The daemon became unreachable, and the rest of the events went back. -/
  | deferred (sent rejected requeued : Nat)
  deriving Repr, DecidableEq, Inhabited

namespace PassOutcome

/-- How long the worker pauses after a pass, if it does. -/
def pause (settings : DeliverySettings) : PassOutcome → Option Nat
  | stopped => none
  | disconnected => some settings.reconnectBackoff
  | idle => some settings.idleInterval
  | drained _ _ => none
  | deferred _ _ _ => some settings.reconnectBackoff

end PassOutcome

/-- What others did while the worker waited for an answer. -/
structure Meanwhile where
  /-- What they handed over, in this order. -/
  arrived : List Event := []
  /-- What became of the request to stop, if anything. -/
  stop? : Option Bool := none
  deriving Repr, DecidableEq, Inhabited

/-- A call for an event, and what came of it. -/
structure Attempt where
  event : Event
  call : Call
  meanwhile : Meanwhile := {}
  answer : Except Panic (Except Status Unit)

/-- Something that happened while the worker was at work. -/
inductive Occurrence where
  /-- The daemon was asked whether it can be reached, for so many milliseconds. -/
  | polled (timeout : Nat) (meanwhile : Meanwhile) (answer : Except Panic Bool)
  /-- Events were taken from the queue. -/
  | taken (batch : List Event)
  /-- The daemon was called for an event. -/
  | called (attempt : Attempt)
  /-- Something was reported. -/
  | noted (notice : Notice)
  /-- The worker paused for so many milliseconds. -/
  | paused (duration : Nat)

/-- What happened, in the order of time. -/
abbrev Trace := List Occurrence

namespace Trace

/-- The polls of a trace: how long each might wait. -/
def polls (trace : Trace) : List Nat :=
  trace.filterMap fun
    | .polled timeout _ _ => some timeout
    | _ => none

/-- The calls of a trace, each with what came of it. -/
def attempts (trace : Trace) : List Attempt :=
  trace.filterMap fun
    | .called attempt => some attempt
    | _ => none

/-- The calls of a trace. -/
def calls (trace : Trace) : List Call := trace.attempts.map Attempt.call

/-- The notices of a trace. -/
def notices (trace : Trace) : List Notice :=
  trace.filterMap fun
    | .noted notice => some notice
    | _ => none

end Trace

/-- The worker between two passes, together with what it shares with the producers: the queue, the
number of events handed over so far, the request to stop and the totals.  The state of the daemon
goes with it. -/
structure Worker (σ : Type) where
  queue : Queue Event := {}
  arrivals : Nat := 0
  stop : Bool := false
  monitor : Monitor
  stats : DeliveryStats := {}
  daemon : σ

/-- What a pass or a run came to: an outcome or a panic, what happened, and the state after it. -/
structure Progress (σ α : Type) where
  outcome : Except Panic α
  trace : Trace
  worker : Worker σ

namespace Progress

variable {σ α : Type}

/-- The same progress after more had happened before. -/
def after (earlier : Trace) (progress : Progress σ α) : Progress σ α :=
  { progress with trace := earlier ++ progress.trace }

end Progress

namespace Worker

variable {σ : Type}

/-- A worker that has not done anything. -/
def fresh (settings : DeliverySettings) (daemon : σ) : Worker σ :=
  { monitor := .fresh settings.connectTimeout, daemon }

/-- How many events are waiting. -/
def pending (worker : Worker σ) : Nat := worker.queue.size

/-- Hands payloads over; each becomes an event with the next arrival number. -/
def enqueue (worker : Worker σ) (payloads : List Payload) : Worker σ :=
  { worker with
    queue := worker.queue.enqueueAll (Event.numbered worker.arrivals payloads)
    arrivals := worker.arrivals + payloads.length }

/-- Gives the request to stop or takes it back. -/
def setStop (worker : Worker σ) (stop : Bool) : Worker σ := { worker with stop }

/-- Lets the effects of the daemon happen. -/
def absorb (worker : Worker σ) (effects : Effects) (daemon : σ) : Worker σ :=
  { worker.enqueue effects.arrivals with stop := effects.stop?.getD worker.stop, daemon }

/-- What the effects of the daemon mean for the worker. -/
def meanwhile (worker : Worker σ) (effects : Effects) : Meanwhile where
  arrived := Event.numbered worker.arrivals effects.arrivals
  stop? := effects.stop?

/-- What a call for an event leaves in the trace. -/
def callTrace (event : Event) (meanwhile : Meanwhile) (transmission : Transmission σ) : Trace :=
  transmission.notices.map .noted
    ++ transmission.call?.toList.map fun call =>
      .called { event, call, meanwhile, answer := transmission.reaction.answer }

/-- Sends events front to back, when so many of their batch have been sent and rejected before. -/
def sendInOrder (daemon : Daemon σ) (settings : DeliverySettings) :
    List Event → Nat → Nat → Worker σ → Progress σ PassOutcome
  | [], sent, rejected, worker => ⟨.ok (.drained sent rejected), [], worker⟩
  | event :: rest, sent, rejected, worker =>
    let transmission := daemon.dispatch (.fresh settings.rpcTimeout) event.payload worker.daemon
    let reaction := transmission.reaction
    let trace := callTrace event (worker.meanwhile reaction.effects) transmission
    let worker := worker.absorb reaction.effects reaction.next
    let stats := worker.stats
    match reaction.answer with
    | .error panic => ⟨.error panic, trace, worker⟩
    | .ok (.ok ()) =>
      (sendInOrder daemon settings rest (sent + 1) rejected
          { worker with stats := { stats with sent := stats.sent + 1 } }).after
        (trace ++ [.noted (.sent event.hookType)])
    | .ok (.error status) =>
      if status.isTransient then
        let requeued := (event :: rest).length
        ⟨.ok (.deferred sent rejected requeued),
          trace
            ++ [.noted (.deferred event.hookType requeued reaction.context.detail status.message)],
          { worker with
            queue := worker.queue.enqueueAll (event :: rest)
            stats := { stats with requeued := stats.requeued + UInt64.ofNat requeued } }⟩
      else
        (sendInOrder daemon settings rest sent (rejected + 1)
            { worker with stats := { stats with rejected := stats.rejected + 1 } }).after
          (trace ++ [.noted (.rejected event.hookType reaction.context.detail status)])

/-- Takes everything that is waiting and sends it. -/
def drain (daemon : Daemon σ) (settings : DeliverySettings) (worker : Worker σ) :
    Progress σ PassOutcome :=
  if worker.pending = 0 then ⟨.ok .idle, [], worker⟩
  else
    let (batch, left) := worker.queue.dequeueUpTo worker.pending
    let stats := worker.stats
    (sendInOrder daemon settings batch 0 0
        { worker with
          queue := left
          stats := { stats with dequeued := stats.dequeued + UInt64.ofNat batch.length } }).after
      [.taken batch, .noted (.dequeued batch.length)]

/-- What is left of a pass once the poll has been answered. -/
def resume (daemon : Daemon σ) (settings : DeliverySettings) (connected : Bool)
    (worker : Worker σ) : Progress σ PassOutcome :=
  let noted := { worker with monitor := (worker.monitor.observe connected).2 }
  let trace := (worker.monitor.notices connected).map .noted
  if connected then (drain daemon settings noted).after trace
  else ⟨.ok .disconnected, trace, noted⟩

/-- The part of a pass that begins with its poll. -/
def poll (daemon : Daemon σ) (settings : DeliverySettings) (worker : Worker σ) :
    Progress σ PassOutcome :=
  let reaction := daemon.poll worker.monitor.timeout worker.daemon
  let polled := worker.absorb reaction.effects reaction.next
  let meanwhile := worker.meanwhile reaction.effects
  let trace :=
    reaction.notices.map .noted ++ [.polled worker.monitor.timeout meanwhile reaction.answer]
  match reaction.answer with
  | .error panic => ⟨.error panic, trace, polled⟩
  | .ok connected => (resume daemon settings connected polled).after trace

/-- One pass, without the pause behind it. -/
def pass (daemon : Daemon σ) (settings : DeliverySettings) (worker : Worker σ) :
    Progress σ PassOutcome :=
  if worker.stop then ⟨.ok .stopped, [], worker⟩ else poll daemon settings worker

/-! ## Runs -/

/-- How a run that did not panic has ended, if it has. -/
inductive Ending where
  /-- The worker was asked to stop. -/
  | stopped
  /-- The passes allowed were used up before. -/
  | unfinished
  deriving Repr, DecidableEq, Inhabited

/-- Passes, with the pauses behind them, until one is stopped or `limit` of them have been made. -/
def passes (daemon : Daemon σ) (settings : DeliverySettings) :
    Nat → Worker σ → Progress σ Ending
  | 0, worker => ⟨.ok .unfinished, [], worker⟩
  | limit + 1, worker =>
    let progress := pass daemon settings worker
    match progress.outcome with
    | .error panic => ⟨.error panic, progress.trace, progress.worker⟩
    | .ok .stopped => ⟨.ok .stopped, progress.trace, progress.worker⟩
    | .ok outcome =>
      (passes daemon settings limit progress.worker).after
        (progress.trace ++ (outcome.pause settings).toList.map .paused)

/-- What is reported before the first pass of a run. -/
def startNotice (settings : DeliverySettings) : Notice :=
  .workerStarted settings.connectTimeout settings.idleInterval

/-- The trace of a run behind its last pass: how much is left is reported once it has stopped. -/
def closing (progress : Progress σ Ending) : Trace :=
  match progress.outcome with
  | .ok .stopped => [.noted (.workerStopped progress.worker.pending)]
  | _ => []

/-- A run of `limit` passes at most, from the report that it starts to the report that it stopped.
-/
def runFor (daemon : Daemon σ) (settings : DeliverySettings) (limit : Nat) (worker : Worker σ) :
    Progress σ Ending :=
  let progress := passes daemon settings limit worker
  { progress with
    trace := .noted (startNotice settings) :: progress.trace ++ closing progress }

end Worker

end JobHooks
