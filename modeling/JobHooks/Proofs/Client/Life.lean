import JobHooks.Client
import JobHooks.Proofs.Calls

/-!
# The life of a client

The life of a client is what is done with it since it was started: hooks are handed over, polls of
its worker are answered, something changes on the side of the daemon, and the client is shut down,
in any order and as often as one likes.  The clock may show anything whenever it is read.

`Client.Mirrors` relates a life to a history of its worker, in which the same calls are made and the
same events are handed over.  Worker and client share the request to stop and the queue; but for
these two the worker of the client is that of the history (`Worker.under`), and they play no part
in what a pass does after its beginning (`Worker.poll_under`).  `Client.Mirrors.advance` says that
one operation keeps the relation, and `Client.exists_mirror` that every life has its history.  What
is known of histories is so known of lives.
-/

namespace JobHooks

set_option autoImplicit false

/-! ## What a worker shares with its client -/

namespace Worker

variable {σ : Type}

/-- The worker with another request to stop, and with so many handles to its queue. -/
def under (stop : Bool) (handles : Nat) (worker : Worker σ) : Worker σ :=
  { worker with stop, queue := { worker.queue with handles } }

end Worker

/-- What a worker came to that had another request to stop and so many handles to its queue. -/
def Progress.under {σ α : Type} (stop : Bool) (handles : Nat) (progress : Progress σ α) :
    Progress σ α :=
  { progress with worker := progress.worker.under stop handles }

/-- What a daemon does with a call when it is kept from the request to stop. -/
theorem Daemon.receive_withoutStop {σ : Type} (daemon : Daemon σ) (call : Call) (state : σ) :
    daemon.withoutStop.receive call state = sparing (daemon.receive call state) := by
  obtain ⟨kind, context, payload⟩ := call
  cases payload <;> rfl

namespace Worker

variable {σ : Type} {daemon : Daemon σ} {settings : DeliverySettings} {stop : Bool} {handles : Nat}

/-- The daemon of a client does not reach the request to stop. -/
theorem stop?_reaction (event : Event) (worker : Worker σ) :
    (reaction daemon.withoutStop settings event worker).effects.stop? = none := by
  rw [reaction_eq, Daemon.receive_withoutStop]
  rfl

theorem called_under (event : Event) (worker : Worker σ) :
    called daemon.withoutStop settings event (worker.under stop handles)
      = (called daemon.withoutStop settings event worker).under stop handles := by
  have spared : (reaction daemon.withoutStop settings event worker).effects.stop? = none :=
    stop?_reaction event worker
  have same : reaction daemon.withoutStop settings event (worker.under stop handles)
      = reaction daemon.withoutStop settings event worker := rfl
  simp only [called, absorb, same, spared]
  rfl

/-- The sending of a batch does not depend on the request to stop and on the handles. -/
theorem sendInOrder_under (batch : List Event) (sent rejected : Nat) (worker : Worker σ) :
    sendInOrder daemon.withoutStop settings batch sent rejected (worker.under stop handles)
      = (sendInOrder daemon.withoutStop settings batch sent rejected worker).under stop handles := by
  induction batch generalizing sent rejected worker with
  | nil => rfl
  | cons event rest ih =>
    have same : reaction daemon.withoutStop settings event (worker.under stop handles)
        = reaction daemon.withoutStop settings event worker := rfl
    have credited (one other requeued : Nat) (start : Worker σ) :
        (start.under stop handles).credit one other requeued
          = (start.credit one other requeued).under stop handles := rfl
    cases answer : (reaction daemon.withoutStop settings event worker).answer with
    | error panic =>
      rw [sendInOrder_of_panic rest sent rejected answer,
        sendInOrder_of_panic rest sent rejected (same ▸ answer), called_under]
      rfl
    | ok result =>
      cases result with
      | ok =>
        rw [sendInOrder_of_accepted rest sent rejected answer,
          sendInOrder_of_accepted rest sent rejected (same ▸ answer), called_under, credited, ih]
        rfl
      | error status =>
        cases transient : status.isTransient with
        | false =>
          rw [sendInOrder_of_rejected rest sent rejected answer transient,
            sendInOrder_of_rejected rest sent rejected (same ▸ answer) transient, called_under,
            credited, ih]
          rfl
        | true =>
          rw [sendInOrder_of_unavailable rest sent rejected answer transient,
            sendInOrder_of_unavailable rest sent rejected (same ▸ answer) transient, called_under]
          rfl

theorem drain_under (worker : Worker σ) :
    drain daemon.withoutStop settings (worker.under stop handles)
      = (drain daemon.withoutStop settings worker).under stop handles := by
  have same : (worker.under stop handles).queue.toList = worker.queue.toList := rfl
  by_cases nothing : worker.queue.toList = []
  · rw [drain_of_nothing nothing, drain_of_nothing (same.trans nothing)]
    rfl
  · have emptied : (worker.under stop handles).emptied = worker.emptied.under stop handles := rfl
    rw [drain_of_waiting nothing, drain_of_waiting (same ▸ nothing), same, emptied,
      sendInOrder_under]
    rfl

theorem resume_under (connected : Bool) (worker : Worker σ) :
    resume daemon.withoutStop settings connected (worker.under stop handles)
      = (resume daemon.withoutStop settings connected worker).under stop handles := by
  cases connected with
  | false => rfl
  | true =>
    have drained : drain daemon.withoutStop settings ((worker.under stop handles).observed true)
        = (drain daemon.withoutStop settings (worker.observed true)).under stop handles :=
      drain_under (worker.observed true)
    exact congrArg (Progress.after ((worker.monitor.notices true).map .noted)) drained

/-- **Behind the beginning of a pass, the request to stop and the handles play no part.** -/
theorem poll_under (worker : Worker σ) :
    poll daemon.withoutStop settings (worker.under stop handles)
      = (poll daemon.withoutStop settings worker).under stop handles := by
  have same : polling daemon.withoutStop (worker.under stop handles)
      = polling daemon.withoutStop worker := rfl
  cases answer : (polling daemon.withoutStop worker).answer with
  | error panic =>
    rw [poll_of_panic answer, poll_of_panic (same ▸ answer)]
    rfl
  | ok connected =>
    have moved : polled daemon.withoutStop (worker.under stop handles)
        = (polled daemon.withoutStop worker).under stop handles := rfl
    rw [poll_of_answer answer, poll_of_answer (same ▸ answer), moved, resume_under]
    rfl

/-- The daemon of a client leaves the request to stop as it is. -/
theorem stop_poll (worker : Worker σ) :
    (poll daemon.withoutStop settings worker).worker.stop = worker.stop := by
  have same : worker.under worker.stop worker.queue.handles = worker := rfl
  have kept : poll daemon.withoutStop settings (worker.under worker.stop worker.queue.handles)
      = (poll daemon.withoutStop settings worker).under worker.stop worker.queue.handles :=
    poll_under worker
  rw [same] at kept
  rw [kept]
  rfl

end Worker

/-! ## Lives -/

/-- What can be done with a client. -/
inductive Client.Operation (σ : Type) where
  /-- It is told of started jobs. -/
  | startJobs (jobs : List JobInfo)
  /-- It is told of ended jobs. -/
  | finishJobs (jobs : List JobInfo)
  /-- It is asked to have a job's resources watched. -/
  | monitorJob (target : MonitorTarget)
  /-- Something changes on the side of the daemon. -/
  | adjust (change : σ → σ)
  /-- The poll in which its worker waits is answered. -/
  | answerPoll
  /-- It is shut down while its worker waits in a poll. -/
  | shutdown
  /-- It is shut down while its worker is behind a poll, in its batch or in the pause after it. -/
  | retire

namespace Client.Operation

variable {σ : Type}

/-- What is handed over, if the clock shows `now`. -/
def payload? (now : Int64) : Operation σ → Option Payload
  | startJobs jobs => some (.start jobs)
  | finishJobs jobs => some (.finish (jobs.map (JobInfo.withElapsed now)))
  | monitorJob target => some (.monitor target)
  | adjust _ | answerPoll | shutdown | retire => none

/-- Whether something is handed over. -/
def submits : Operation σ → Bool
  | startJobs _ | finishJobs _ | monitorJob _ => true
  | adjust _ | answerPoll | shutdown | retire => false

/-- Whether it is the end of jobs that is told of. -/
def finishes : Operation σ → Bool
  | finishJobs _ => true
  | startJobs _ | monitorJob _ | adjust _ | answerPoll | shutdown | retire => false

/-- Whether the client is shut down. -/
def shutsDown : Operation σ → Bool
  | shutdown | retire => true
  | startJobs _ | finishJobs _ | monitorJob _ | adjust _ | answerPoll => false

/-- How many operations do something, the first one and the others. -/
theorem countP_cons (does : Operation σ → Bool) (operation : Operation σ)
    (operations : List (Operation σ)) :
    (operation :: operations).countP does = (does operation).toNat + operations.countP does := by
  rw [List.countP_cons, Nat.add_comm]
  cases does operation <;> rfl

end Client.Operation

/-- A step and another one behind it. -/
def ClientStep.followedBy {σ : Type} (step next : ClientStep σ) : ClientStep σ where
  notices := step.notices ++ next.notices
  trace := step.trace ++ next.trace
  client := next.client

@[simp] theorem ClientStep.client_followedBy {σ : Type} (step next : ClientStep σ) :
    (step.followedBy next).client = next.client := rfl

namespace Client

variable {σ : Type} (daemon : Daemon σ) (settings : DeliverySettings) (clock : Nat → Int64)

/-- Does something with a client.  What the clock shows may differ from reading to reading. -/
def perform (client : Client σ) : Operation σ → ClientStep σ
  | .startJobs jobs => client.startJobs jobs
  | .finishJobs jobs => client.finishJobs (clock client.clockReads) jobs
  | .monitorJob target => client.monitorJob target
  | .adjust change =>
    { client :=
      { client with worker := { client.worker with daemon := change client.worker.daemon } } }
  | .answerPoll => client.answerPoll daemon settings
  | .shutdown => client.shutdown daemon settings
  | .retire => client.retire

/-- A life that goes on with operations, one after the other. -/
def live (operations : List (Operation σ)) (life : ClientStep σ) : ClientStep σ :=
  operations.foldl
    (fun life operation => life.followedBy (perform daemon settings clock life.client operation))
    life

/-- What an operation does with the worker, as actions of a history. -/
def actions (client : Client σ) (operation : Operation σ) : List (Action σ) :=
  match operation with
  | .startJobs _ | .finishJobs _ | .monitorJob _ =>
    (operation.payload? (clock client.clockReads)).toList.map fun payload => .enqueue [payload]
  | .adjust change => [.adjust change]
  | .answerPoll | .shutdown => if client.state = .polling then [.pass] else []
  | .retire => []

end Client

/-! ## Lives and histories -/

namespace WorkerState

/-- How many handles there are to the queue. -/
def handles : WorkerState → Nat
  | polling => 2
  | dead _ | ended => 1

/-- Whether the worker has panicked. -/
def isDead : WorkerState → Bool
  | dead _ => true
  | polling | ended => false

/-- Where a worker goes that has not panicked. -/
def next (stop : Bool) : WorkerState := if stop then ended else polling

end WorkerState

namespace Client

variable {σ : Type}

/-- In the course of a life, in which so many payloads have been submitted, the worker has done what
it does in a history: the same calls are made, and as many events are handed over.  The client's
worker waits in a poll, has ended since the client was shut down, or has panicked. -/
structure Mirrors (submitted : Nat) (life : ClientStep σ) (history : History σ) : Prop where
  worker_eq : life.client.worker
    = history.worker.under life.client.joined life.client.state.handles
  going : history.worker.stop = false
  attempts_eq : history.attempts = life.trace.attempts
  length_eq : history.handedOver.length = submitted + life.trace.arrived.length
  state_eq : life.client.state.isDead = false → life.client.state = .next life.client.joined
  unbroken : life.client.state.isDead = false → history.Unbroken
  panicked : life.client.state.isDead = true →
    ∃ moment ∈ life.trace, ∃ panic, moment.panic? = some panic
  reported : life.notices.count .workerPanicked
    = (life.client.joined && life.client.state.isDead).toNat

theorem mirrors_start (settings : DeliverySettings) (state : σ) :
    Mirrors 0 (start settings state) (.fresh settings state) where
  worker_eq := rfl
  going := rfl
  attempts_eq := rfl
  length_eq := rfl
  state_eq := fun _ => rfl
  unbroken := fun _ _ member => absurd member List.not_mem_nil
  panicked := fun dead => absurd dead Bool.false_ne_true
  reported := rfl

variable {daemon : Daemon σ} {settings : DeliverySettings} {clock : Nat → Int64} {submitted : Nat}
  {life : ClientStep σ} {history : History σ}

/-- What comes of the answer to a poll is what comes of a pass; a pause or a report may follow. -/
theorem answerPoll_eq {client : Client σ} {worker : Worker σ} {stop : Bool}
    (waits : client.state = .polling) (same : client.worker = worker.under stop 2)
    (going : worker.stop = false) :
    let progress := worker.pass daemon.withoutStop settings
    ∃ (state : WorkerState) (quiet : Trace), quiet.Quiet
      ∧ state.isDead = (Deed.passed progress.outcome progress.trace).broken
      ∧ (state.isDead = false → state = .next stop)
      ∧ client.answerPoll daemon settings
        = { trace := progress.trace ++ quiet
            client :=
              { client with worker := progress.worker.under stop state.handles, state } } := by
  intro progress
  have polled : Worker.poll daemon.withoutStop settings client.worker
      = progress.under stop 2 := by
    rw [same, Worker.poll_under, ← Worker.pass_of_going going]
  cases came : progress.outcome with
  | error panic =>
    refine ⟨.dead panic, [], (fun _ member => absurd member List.not_mem_nil), rfl, nofun, ?_⟩
    have ended : (progress.under stop 2).outcome = .error panic := came
    simp only [answerPoll, waits, polled, ended, List.append_nil]
    rfl
  | ok outcome =>
    have answered : (progress.under stop 2).outcome = .ok outcome := came
    let pauses : Trace := (outcome.pause settings).toList.map .paused
    have paused : pauses.Quiet := Trace.quiet_paused _
    have settled : client.answerPoll daemon settings
        = { client with worker := (progress.under stop 2).worker }.settle
          ((progress.under stop 2).trace ++ pauses) := by
      simp only [answerPoll, waits, polled, answered]
      rfl
    rw [settled]
    cases stop with
    | false => exact ⟨.polling, pauses, paused, rfl, fun _ => rfl, rfl⟩
    | true =>
      let report : Notice := .workerStopped (progress.under true 2).worker.pending
      refine ⟨.ended, pauses ++ [report].map .noted, paused.append (Trace.quiet_noted _), rfl,
        fun _ => rfl, ?_⟩
      rw [← List.append_assoc]
      rfl

/-- A pass in the course of a life, with what follows it. -/
theorem Mirrors.pass (mirrors : Mirrors submitted life history)
    (waits : life.client.state = .polling) {notices : List Notice} {state : WorkerState}
    {quiet : Trace} {joined : Bool} (silent : quiet.Quiet)
    (dead : state.isDead = (Deed.passed (history.worker.pass daemon.withoutStop settings).outcome
      (history.worker.pass daemon.withoutStop settings).trace).broken)
    (goesOn : state.isDead = false → state = .next joined)
    (told : notices.count .workerPanicked = (joined && state.isDead).toNat) :
    let progress := history.worker.pass daemon.withoutStop settings
    Mirrors submitted
      (life.followedBy
        { notices := notices
          trace := progress.trace ++ quiet
          client :=
            { life.client with
              worker := progress.worker.under joined state.handles, state, joined } })
      (history.act daemon.withoutStop settings .pass) := by
  intro progress
  have deeds : (history.act daemon.withoutStop settings .pass).deeds
      = history.deeds ++ [.passed progress.outcome progress.trace] := rfl
  have alive : life.client.state.isDead = false := by rw [waits]; rfl
  refine ⟨rfl, ?_, ?_, ?_, goesOn, ?_, ?_, ?_⟩
  · have kept : (history.worker.poll daemon.withoutStop settings).worker.stop
        = history.worker.stop := Worker.stop_poll history.worker
    rw [← Worker.pass_of_going mirrors.going] at kept
    exact kept.trans mirrors.going
  · rw [History.attempts_of_deeds deeds, mirrors.attempts_eq]
    simp only [ClientStep.followedBy, Trace.attempts_append, silent.attempts_eq, List.append_nil]
    rfl
  · rw [History.handedOver_of_deeds deeds, List.length_append, mirrors.length_eq]
    simp only [ClientStep.followedBy, Trace.arrived_append, silent.arrived_eq, List.append_nil,
      List.length_append, Nat.add_assoc]
    rfl
  · exact fun still => (History.unbroken_of_deeds deeds).mpr
      ⟨mirrors.unbroken alive, dead.symm.trans still⟩
  · intro died
    have broken := dead.symm.trans died
    cases came : progress.outcome with
    | ok outcome =>
      rw [came] at broken
      cases broken
    | error panic =>
      obtain ⟨last, found, panicked⟩ := Worker.getLast?_of_pass_panic came
      have member : last ∈ progress.trace := List.mem_of_getLast? found
      exact ⟨last, List.mem_append_right _ (List.mem_append_left _ member), panic, panicked⟩
  · rw [ClientStep.followedBy, List.count_append, mirrors.reported, alive, Bool.and_false, told]
    exact Nat.zero_add _

/-- What an operation does that hands something over. -/
theorem perform_of_payload {client : Client σ} {operation : Operation σ} {payload : Payload}
    (given : operation.payload? (clock client.clockReads) = some payload) :
    perform daemon settings clock client operation
      = { notices := [.enqueued payload.hookType]
          client :=
            { client with
              worker := client.worker.enqueue [payload]
              clockReads := client.clockReads + operation.finishes.toNat } } := by
  cases operation with
  | startJobs | finishJobs | monitorJob =>
    obtain rfl := Option.some.inj given
    rfl
  | adjust | answerPoll | shutdown | retire => cases given

/-- A deed without a call in the course of a life, in which so many events are handed over. -/
theorem Mirrors.uncalled (mirrors : Mirrors submitted life history) {after : History σ} {deed : Deed}
    {notices : List Notice} {client : Client σ}
    (deeds : after.deeds = history.deeds ++ [deed]) (none : deed.attempts = [])
    (whole : deed.broken = false) (going : after.worker.stop = false)
    (worker : client.worker = after.worker.under client.joined client.state.handles)
    (joined : client.joined = life.client.joined) (state : client.state = life.client.state)
    (silent : notices.count .workerPanicked = 0) :
    Mirrors (submitted + deed.arrived.length)
      (life.followedBy { notices := notices, client := client }) after where
  worker_eq := worker
  going := going
  attempts_eq := by
    rw [History.attempts_of_deeds deeds, mirrors.attempts_eq, none, List.append_nil]
    exact congrArg Trace.attempts (List.append_nil life.trace).symm
  length_eq := by
    rw [History.handedOver_of_deeds deeds, List.length_append, mirrors.length_eq,
      Nat.add_right_comm]
    exact congrArg (fun trace : Trace => _ + trace.arrived.length) (List.append_nil life.trace).symm
  state_eq := by
    rw [ClientStep.followedBy, joined, state]
    exact mirrors.state_eq
  unbroken := by
    rw [ClientStep.followedBy, state]
    exact fun alive => (History.unbroken_of_deeds deeds).mpr ⟨mirrors.unbroken alive, whole⟩
  panicked := by
    rw [ClientStep.followedBy, state, List.append_nil]
    exact mirrors.panicked
  reported := by
    rw [ClientStep.followedBy, joined, state, List.count_append, mirrors.reported, silent]
    exact Nat.add_zero _

/-- A step that leads nowhere. -/
theorem followedBy_self (life : ClientStep σ) :
    life.followedBy { client := life.client } = life := by
  simp only [ClientStep.followedBy, List.append_nil]

/-- Where no worker waits in a poll, there is none to be answered. -/
theorem answerPoll_of_ne {client : Client σ} (ne : client.state ≠ .polling) :
    client.answerPoll daemon settings = { client } := by
  unfold answerPoll
  split
  · next waits => exact absurd waits ne
  · rfl

/-- The answer to a poll changes the worker alone. -/
theorem exists_answerPoll (daemon : Daemon σ) (settings : DeliverySettings) (client : Client σ) :
    ∃ worker state,
      (client.answerPoll daemon settings).client = { client with worker, state } := by
  unfold answerPoll
  split
  · simp only
    split
    · exact ⟨_, _, rfl⟩
    · unfold settle
      split <;> exact ⟨_, _, rfl⟩
  · exact ⟨_, _, rfl⟩

/-- The worker of a client that has been shut down does not wait in a poll. -/
theorem Mirrors.ne_polling (mirrors : Mirrors submitted life history)
    (joined : life.client.joined = true) : life.client.state ≠ .polling := by
  intro waits
  have state := mirrors.state_eq (by rw [waits]; rfl)
  rw [waits, joined] at state
  cases state

/-- A worker that does not wait in a poll has panicked, unless the client has been shut down. -/
theorem Mirrors.isDead (mirrors : Mirrors submitted life history)
    (joined : life.client.joined = false) (ne : life.client.state ≠ .polling) :
    life.client.state.isDead = true := by
  by_contra alive
  have state := mirrors.state_eq (eq_false_of_ne_true alive)
  rw [joined] at state
  exact ne state

/-- The client is shut down while its worker makes no pass. -/
theorem Mirrors.close (mirrors : Mirrors submitted life history)
    (open_ : life.client.joined = false) {step : ClientStep σ} (silent : step.trace.Quiet)
    (worker : step.client.worker = history.worker.under true step.client.state.handles)
    (joined : step.client.joined = true)
    (goesOn : step.client.state.isDead = false → step.client.state = .ended)
    (dead : step.client.state.isDead = life.client.state.isDead)
    (told : step.notices.count .workerPanicked = step.client.state.isDead.toNat) :
    Mirrors submitted (life.followedBy step) history where
  worker_eq := by
    rw [ClientStep.followedBy, joined]
    exact worker
  going := mirrors.going
  attempts_eq := by
    rw [ClientStep.followedBy, Trace.attempts_append, silent.attempts_eq, List.append_nil]
    exact mirrors.attempts_eq
  length_eq := by
    rw [ClientStep.followedBy, Trace.arrived_append, silent.arrived_eq, List.append_nil]
    exact mirrors.length_eq
  state_eq := by
    rw [ClientStep.followedBy, joined]
    exact goesOn
  unbroken := by
    rw [ClientStep.followedBy, dead]
    exact mirrors.unbroken
  panicked := by
    intro died
    obtain ⟨moment, member, panicked⟩ := mirrors.panicked (dead.symm.trans died)
    exact ⟨moment, List.mem_append_left _ member, panicked⟩
  reported := by
    rw [ClientStep.followedBy, joined, List.count_append, mirrors.reported, open_, told,
      Bool.true_and]
    exact Nat.zero_add _

/-- The end of a client whose worker has panicked before. -/
theorem Mirrors.join (mirrors : Mirrors submitted life history)
    (open_ : life.client.joined = false) (ne : life.client.state ≠ .polling) :
    Mirrors submitted
      (life.followedBy (ClientStep.join { client := life.client.askToStop })) history := by
  have dead := mirrors.isDead open_ ne
  obtain ⟨panic, state⟩ : ∃ panic, life.client.state = .dead panic := by
    cases state : life.client.state with
    | dead panic => exact ⟨panic, rfl⟩
    | polling | ended =>
      rw [state] at dead
      cases dead
  refine mirrors.close open_ (fun _ member => absurd member List.not_mem_nil) ?_ rfl
    (fun alive => absurd (dead.symm.trans alive) Bool.noConfusion) rfl ?_
  · rw [ClientStep.join, askToStop, mirrors.worker_eq]
    rfl
  · simp only [ClientStep.join, askToStop, state]
    rfl

/-- Something is handed over in the course of a life. -/
theorem Mirrors.submit (mirrors : Mirrors submitted life history) {operation : Operation σ}
    {payload : Payload}
    (given : operation.payload? (clock life.client.clockReads) = some payload) :
    Mirrors (submitted + 1)
      (life.followedBy (perform daemon settings clock life.client operation))
      (history.act daemon.withoutStop settings (.enqueue [payload])) := by
  rw [perform_of_payload given]
  have deeds : (history.act daemon.withoutStop settings (.enqueue [payload])).deeds
      = history.deeds ++ [.enqueued (Event.numbered history.worker.arrivals [payload])] := rfl
  refine mirrors.uncalled deeds rfl rfl mirrors.going ?_ rfl rfl rfl
  simp only [mirrors.worker_eq]
  rfl

/-- A poll is answered in the course of a life. -/
theorem Mirrors.answer (mirrors : Mirrors submitted life history)
    (waits : life.client.state = .polling) :
    Mirrors submitted (life.followedBy (life.client.answerPoll daemon settings))
      (history.act daemon.withoutStop settings .pass) := by
  have worker := mirrors.worker_eq
  rw [waits] at worker
  obtain ⟨state, quiet, silent, dead, goesOn, same⟩ := answerPoll_eq waits worker mirrors.going
  rw [same]
  have open_ : life.client.joined = false :=
    eq_false_of_ne_true fun joined => mirrors.ne_polling joined waits
  have told : List.count Notice.workerPanicked [] = (life.client.joined && state.isDead).toNat := by
    rw [open_]
    rfl
  exact mirrors.pass waits silent dead goesOn told

/-- The request to stop is given when the client is shut down. -/
theorem Mirrors.stop_eq (mirrors : Mirrors submitted life history) :
    life.client.worker.stop = life.client.joined := by
  rw [mirrors.worker_eq]
  rfl

/-- A client that has been shut down can only be told of more hooks. -/
theorem Mirrors.askToStop_of_joined (mirrors : Mirrors submitted life history)
    (joined : life.client.joined = true) : life.client.askToStop = life.client := by
  have stop : life.client.worker.stop = true := mirrors.stop_eq.trans joined
  calc life.client.askToStop
      = { life.client with worker := life.client.worker.setStop life.client.worker.stop } := by
        rw [stop]
        rfl
    _ = life.client := rfl

/-- The client is shut down while its worker waits in a poll or makes no pass any more. -/
theorem Mirrors.shutdown (mirrors : Mirrors submitted life history) :
    Mirrors submitted (life.followedBy (life.client.shutdown daemon settings))
      (History.run daemon.withoutStop settings
        (if life.client.state = .polling then [.pass] else []) history) := by
  cases joined : life.client.joined with
  | true =>
    rw [if_neg (mirrors.ne_polling joined), Client.shutdown, if_pos joined,
      mirrors.askToStop_of_joined joined, followedBy_self]
    exact mirrors
  | false =>
    have unjoined : life.client.joined ≠ true := ne_true_of_eq_false joined
    rw [Client.shutdown, if_neg unjoined]
    by_cases waits : life.client.state = .polling
    · have worker : life.client.askToStop.worker = history.worker.under true 2 := by
        rw [askToStop, mirrors.worker_eq, waits]
        rfl
      have asked : life.client.askToStop.state = .polling := waits
      obtain ⟨state, quiet, silent, dead, goesOn, same⟩ :=
        answerPoll_eq asked worker mirrors.going
      rw [if_pos waits, same]
      refine mirrors.pass waits silent dead goesOn ?_
      cases state <;> rfl
    · have still : life.client.askToStop.state ≠ .polling := waits
      rw [if_neg waits, answerPoll_of_ne still]
      exact mirrors.join joined waits

/-- The client is shut down while its worker is behind its poll. -/
theorem Mirrors.retire (mirrors : Mirrors submitted life history) :
    Mirrors submitted (life.followedBy life.client.retire) history := by
  cases joined : life.client.joined with
  | true =>
    rw [Client.retire, if_pos joined, mirrors.askToStop_of_joined joined, followedBy_self]
    exact mirrors
  | false =>
    have unjoined : life.client.joined ≠ true := ne_true_of_eq_false joined
    rw [Client.retire, if_neg unjoined]
    cases state : life.client.state with
    | polling =>
      refine mirrors.close joined ?_ ?_ rfl (fun _ => rfl) ?_ rfl
      · exact Trace.quiet_noted [_]
      · have worker : life.client.askToStop.worker = history.worker.under true 2 := by
          rw [askToStop, mirrors.worker_eq, state]
          rfl
        change (life.client.askToStop.outlive .ended).worker = _
        rw [outlive, worker]
        rfl
      · rw [state]
        rfl
    | dead | ended =>
      have ne : life.client.state ≠ .polling := by
        rw [state]
        nofun
      exact mirrors.join joined ne

/-- **What an operation does in the course of a life is what a history does.** -/
theorem Mirrors.advance (mirrors : Mirrors submitted life history) (operation : Operation σ) :
    Mirrors (submitted + operation.submits.toNat)
      (life.followedBy (perform daemon settings clock life.client operation))
      (History.run daemon.withoutStop settings (actions clock life.client operation) history) := by
  cases operation with
  | startJobs | finishJobs | monitorJob => exact mirrors.submit rfl
  | adjust change =>
    have deeds : (history.act daemon.withoutStop settings (.adjust change)).deeds
        = history.deeds ++ [.adjusted] := rfl
    refine mirrors.uncalled deeds rfl rfl mirrors.going ?_ rfl rfl rfl
    simp only [mirrors.worker_eq]
    rfl
  | answerPoll =>
    rw [actions, perform]
    by_cases waits : life.client.state = .polling
    · rw [if_pos waits]
      exact mirrors.answer waits
    · rw [if_neg waits, answerPoll_of_ne waits, followedBy_self]
      exact mirrors
  | shutdown => exact mirrors.shutdown
  | retire => exact mirrors.retire

section

variable (daemon settings clock)

/-- A life goes on in two parts. -/
theorem live_append (earlier later : List (Operation σ)) (life : ClientStep σ) :
    live daemon settings clock (earlier ++ later) life
      = live daemon settings clock later (live daemon settings clock earlier life) :=
  List.foldl_append

/-- **What goes on in the course of a life is what goes on in a history.** -/
theorem Mirrors.live (mirrors : Mirrors submitted life history) (operations : List (Operation σ)) :
    ∃ actions, Mirrors (submitted + operations.countP Operation.submits)
      (live daemon settings clock operations life)
      (History.run daemon.withoutStop settings actions history) := by
  induction operations generalizing submitted life history with
  | nil => exact ⟨[], mirrors⟩
  | cons operation operations ih =>
    obtain ⟨later, behind⟩ := ih (mirrors.advance operation)
    refine ⟨actions clock life.client operation ++ later, ?_⟩
    rw [Operation.countP_cons, ← Nat.add_assoc, History.run, List.foldl_append]
    exact behind

/-- **Every life has its history.** -/
theorem exists_mirror (state : σ) (operations : List (Operation σ)) :
    ∃ actions, Mirrors (operations.countP Operation.submits)
      (live daemon settings clock operations (start settings state))
      (History.run daemon.withoutStop settings actions (.fresh settings state)) := by
  obtain ⟨actions, mirrors⟩ := (mirrors_start settings state).live daemon settings clock operations
  rw [Nat.zero_add] at mirrors
  exact ⟨actions, mirrors⟩

end

end Client

end JobHooks
