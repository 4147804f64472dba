import JobHooks.Delivery.Worker

/-!
# The client

The client is what a scheduler holds: hooks are handed over to it and are delivered behind its back
by a worker of its own.  Between two operations the worker of a fresh client waits in a poll, and
`Client.answerPoll` lets it go on until its next poll.  A worker that panics is dead; one that was
asked to stop ends after its pass.  Shutting down asks the worker to stop and waits for its end; a
second shutdown finds nothing to wait for.  The request to stop belongs to the client alone: the
daemon cannot reach it.

Client and worker have a handle each to the queue between them.  The worker's is dropped when the
worker ends or panics; the client keeps its own, so that hooks can still be handed over.

Ending jobs are stamped with their elapsed time as they are handed over.  The clock is read once for
all of them, and the client counts how often it was read.
-/

namespace JobHooks

set_option autoImplicit false

/-- Where the worker of a client is. -/
inductive WorkerState where
  /-- It waits for the answer to a poll. -/
  | polling
  /-- It panicked. -/
  | dead (panic : Panic)
  /-- It ended because it was asked to stop. -/
  | ended
  deriving Repr, DecidableEq, Inhabited

/-- A client, its worker, and what the two share. -/
structure Client (σ : Type) where
  worker : Worker σ
  state : WorkerState
  /-- Whether the end of the worker has been waited for. -/
  joined : Bool := false
  clockReads : Nat := 0

/-- What an operation of a client leads to: what its caller reports, what the worker does meanwhile,
and the client after it. -/
structure ClientStep (σ : Type) where
  notices : List Notice := []
  trace : Trace := []
  client : Client σ

namespace Client

variable {σ : Type}

/-- The client when its worker is over: the worker's handle to the queue is dropped. -/
def outlive (state : WorkerState) (client : Client σ) : Client σ :=
  { client with worker := { client.worker with queue := client.worker.queue.drop }, state }

/-- The client without the pauses and passes that lead its worker to the next poll: if the worker is
asked to stop it reports how much is left and ends, else it waits in its next poll. -/
def settle (client : Client σ) (earlier : Trace) : ClientStep σ :=
  if client.worker.stop then
    { trace := earlier ++ [.noted (.workerStopped client.worker.pending)]
      client := client.outlive .ended }
  else { trace := earlier, client := { client with state := .polling } }

/-- A client whose worker has just started, with a handle of its own to the client's queue. -/
def start (settings : DeliverySettings) (daemon : σ) : ClientStep σ :=
  settle
    { worker := { Worker.fresh settings daemon with queue := Queue.empty.clone }
      state := .polling }
    [.noted (Worker.startNotice settings)]

/-- Whether the end of the worker has not been waited for yet. -/
def isRunning (client : Client σ) : Bool := !client.joined

/-- How many events are waiting. -/
def pending (client : Client σ) : Nat := client.worker.pending

/-- The totals of the worker. -/
def stats (client : Client σ) : DeliveryStats := client.worker.stats

/-- Hands a payload over. -/
def enqueue (client : Client σ) (payload : Payload) : ClientStep σ where
  notices := [.enqueued payload.hookType]
  client := { client with worker := client.worker.enqueue [payload] }

/-- Tells of started jobs. -/
def startJobs (client : Client σ) (jobs : List JobInfo) : ClientStep σ :=
  client.enqueue (.start jobs)

/-- Tells of ended jobs, each stamped with its elapsed time at `now`, the one reading of the clock.
-/
def finishJobs (client : Client σ) (now : Int64) (jobs : List JobInfo) : ClientStep σ :=
  { client with clockReads := client.clockReads + 1 }.enqueue
    (.finish (jobs.map (JobInfo.withElapsed now)))

/-- Asks for a job's resources to be watched. -/
def monitorJob (client : Client σ) (target : MonitorTarget) : ClientStep σ :=
  client.enqueue (.monitor target)

/-- Lets the daemon answer the poll in which the worker waits, and the worker go on until its next
poll or its end.  Nothing happens if no worker waits. -/
def answerPoll (daemon : Daemon σ) (settings : DeliverySettings) (client : Client σ) :
    ClientStep σ :=
  match client.state with
  | .polling =>
    let progress := Worker.poll daemon.withoutStop settings client.worker
    let after := { client with worker := progress.worker }
    match progress.outcome with
    | .error panic =>
      { trace := progress.trace, client := after.outlive (.dead panic) }
    | .ok outcome =>
      after.settle (progress.trace ++ (outcome.pause settings).toList.map .paused)
  | _ => { client }

/-- The client when its worker has been asked to stop. -/
def askToStop (client : Client σ) : Client σ :=
  { client with worker := client.worker.setStop true }

end Client

/-- Waits for the end of the worker after a step. -/
def ClientStep.join {σ : Type} (step : ClientStep σ) : ClientStep σ where
  notices := .clientEnding ::
    match step.client.state with
    | .dead _ => [.workerPanicked]
    | _ => []
  trace := step.trace
  client := { step.client with joined := true }

namespace Client

variable {σ : Type}

/-- Asks the worker to stop and waits for its end; that it panicked, now or before, is reported.  A
later shutdown only asks again. -/
def shutdown (daemon : Daemon σ) (settings : DeliverySettings) (client : Client σ) :
    ClientStep σ :=
  let asked := client.askToStop
  if client.joined then { client := asked } else (asked.answerPoll daemon settings).join

/-- A shutdown while the worker pauses: it ends without another poll. -/
def retire (client : Client σ) : ClientStep σ :=
  let asked := client.askToStop
  if client.joined then { client := asked }
  else
    match client.state with
    | .polling => (asked.settle []).join
    | _ => { client := asked : ClientStep σ }.join

end Client

end JobHooks
