import JobHooks.Proofs.Cli.Report
import JobHooks.Proofs.Client.Life
import JobHooks.Proofs.Transport.Received

/-!
# A command is a session

`Cli.send` lets the worker go on from poll to poll and reads the totals between two passes, or in
the midst of a call that is never answered.  This is one of the schedules of a session
(`Cli.send_eq_session`), so what is known of every session is known of a command: its report is a
sample, and its success means what `Cli.Session.sample_of_done` says.  A command that panics before
it waits is the beginning of a session in which only the worker goes on (`Cli.send_of_untellable`).
-/

namespace JobHooks

set_option autoImplicit false

/-- A payload as a client hands it over: ending jobs are stamped with their elapsed time. -/
def Payload.stamped (now : Int64) : Payload → Payload
  | .start jobs => .start jobs
  | .finish jobs => .finish (jobs.map (JobInfo.withElapsed now))
  | .monitor target => .monitor target

/-! ## The daemon beyond a transport -/

namespace Transport

variable {σ ρ : Type} [Inhabited ρ]

/-- The daemon beyond a transport does not reach for the request to stop. -/
theorem withoutStop_daemon (link : Link σ ρ) : (daemon link).withoutStop = daemon link := rfl

end Transport

/-! ## The worker in the midst of a pass -/

namespace Machine

variable {σ : Type} {daemon : Daemon σ} {settings : DeliverySettings} {machine : Machine σ}

/-- A worker that rests or has panicked. -/
def AtRest (machine : Machine σ) : Prop :=
  machine.phase = .resting ∨ ∃ panic lost, machine.phase = .dead panic lost

theorem worker_complete (progress : Progress σ PassOutcome) (lost : List Event)
    (machine : Machine σ) : (machine.complete progress lost).worker = progress.worker := by
  cases outcome : progress.outcome <;> simp only [complete, outcome] <;> rfl

/-- Behind a pass the worker rests, unless it has panicked. -/
theorem atRest_complete (progress : Progress σ PassOutcome) (lost : List Event)
    (machine : Machine σ) : (machine.complete progress lost).AtRest := by
  cases outcome : progress.outcome with
  | ok => exact .inl (by simp only [complete, outcome, finish])
  | error panic => exact .inr ⟨panic, lost, by simp only [complete, outcome]⟩

/-- The machine behind a poll that was answered with yes. -/
def connected (daemon : Daemon σ) (machine : Machine σ) : Machine σ :=
  machine.record
    (Worker.pollTrace daemon ((Worker.polled daemon machine.worker).monitor.notices true)
      machine.worker)
    ((Worker.polled daemon machine.worker).observed true)

/-- The machine when the worker has taken what was waiting behind such a poll. -/
def loaded (daemon : Daemon σ) (machine : Machine σ) : Machine σ :=
  let noted := machine.connected daemon
  noted.record [.taken noted.worker.queue.toList,
    .noted (.dequeued noted.worker.queue.toList.length)] noted.worker.emptied

/-- A worker at rest goes on to the first call of its batch. -/
theorem reaches_sending {event : Event} {waiting : List Event} (resting : machine.phase = .resting)
    (going : machine.worker.stop = false)
    (answer : (Worker.polling daemon machine.worker).answer = .ok true)
    (queue : (Worker.polled daemon machine.worker).queue.toList = event :: waiting) :
    Reaches daemon settings machine
      ((machine.loaded daemon).proceed 0 0 (event :: waiting)) := by
  let noted := machine.connected daemon
  have waits : noted.worker.queue.toList = event :: waiting := queue
  have some : noted.worker.pending = (event :: waiting).length := congrArg List.length waits
  have started : machine.work daemon settings = { machine with phase := .polling } := by
    rw [work, resting, going]
    rfl
  have polled : { machine with phase := .polling }.work daemon settings
      = { noted with phase := .sizing } := by
    simp only [work, poll, answer]
    rfl
  have sized : { noted with phase := .sizing }.work daemon settings
      = { noted with phase := .taking (event :: waiting).length [] } := by
    simp only [work, some]
    rfl
  have received : Reaches daemon settings _ _ := reaches_begin event waiting [] noted waits
  have begins : { noted with worker :=
        { noted.worker with queue := { noted.worker.queue with waiting := [] } } }.begin
      (event :: waiting) = (machine.loaded daemon).proceed 0 0 (event :: waiting) := by
    have same : (machine.connected daemon).worker.queue.toList = event :: waiting := waits
    simp only [begin, loaded, Worker.emptied, same, noted]
    rfl
  rw [List.nil_append, begins] at received
  exact .head started (.head polled (.head sized received))

end Machine

namespace Cli.Session

variable {σ : Type} {daemon : Daemon σ} {settings : DeliverySettings} {session : Session σ}

/-! ## Moves of one side alone -/

/-- The worker moves so many times. -/
theorem run_working (turns : Nat) (session : Session σ) :
    session.run daemon settings (List.replicate turns .worker)
      = { session with
          machine := session.machine.run daemon settings (List.replicate turns .worker) } := by
  induction turns generalizing session with
  | zero => rfl
  | succ turns ih => exact ih _

theorem exists_working (settings : DeliverySettings) (session : Session σ) {after : Machine σ}
    (reaches : Machine.Reaches daemon settings session.machine after) :
    ∃ schedule, session.run daemon settings schedule = { session with machine := after } := by
  obtain ⟨turns, rfl⟩ := reaches
  exact ⟨_, run_working turns session⟩

/-- A caller whose time is over reads its numbers and asks the worker to stop. -/
theorem run_reading (waiting : session.stage = .waiting) :
    session.run daemon settings (.caller true :: List.replicate 5 (.caller false))
      = { machine :=
            { session.machine with worker := session.machine.worker.setStop true }
          stage := .joining
            (.ofStats session.machine.worker.stats session.machine.worker.pending) } := by
  obtain ⟨machine, stage⟩ := session
  subst waiting
  rfl

variable (daemon settings) in
/-- A worker at rest that has been asked to stop comes to its end, and the caller to its own. -/
theorem exists_joined {sample : Sample} (session : Session σ)
    (joining : session.stage = .joining sample)
    (stop : session.machine.worker.stop = true) (rests : session.machine.AtRest) :
    ∃ schedule, (session.run daemon settings schedule).stage = .done sample
      ∧ (session.run daemon settings schedule).machine.worker = session.machine.worker := by
  have ended (machine : Machine σ) (isOver : machine.isOver = true) :
      (({ machine, stage := .joining sample } : Session σ).advance false)
        = { machine, stage := .done sample } := by
    simp only [advance, isOver, if_true]
  have step : session.run daemon settings [.worker, .caller false]
      = (({ machine := session.machine.work daemon settings, stage := .joining sample } :
          Session σ).advance false) := by
    rw [← joining]
    rfl
  refine ⟨[.worker, .caller false], ?_⟩
  rcases rests with resting | ⟨panic, lost, dead⟩
  · have found : session.machine.work daemon settings = session.machine.finish .stopped := by
      simp only [Machine.work, resting, stop, if_true]
    rw [step, found, ended]
    · exact ⟨rfl, rfl⟩
    · simp [Machine.isOver, Machine.finish]
  · have idle : session.machine.work daemon settings = session.machine := by
      simp only [Machine.work, dead]
    rw [step, idle, ended]
    · exact ⟨rfl, rfl⟩
    · simp only [Machine.isOver, dead]

/-! ## Clients and sessions -/

variable {ρ : Type} [Inhabited ρ] {link : Link σ ρ} {payload : Payload}
  {client : Client (Transport σ)}

/-- A client that is waited for, and a session whose caller waits: the worker is the same but for
the handles to the queue, and it waits for its next poll or has panicked. -/
structure Follows (payload : Payload) (client : Client (Transport σ))
    (session : Session (Transport σ)) : Prop where
  alone : session.Alone payload
  waiting : session.stage = .waiting
  going : session.machine.worker.stop = false
  worker_eq : client.worker = session.machine.worker.under false client.state.handles
  polling : client.state = .polling → session.machine.phase = .resting
  rests : session.machine.AtRest
  joined : client.joined = false

/-- What the caller reads between two passes is what the client shows. -/
theorem Follows.exists_read {session : Session (Transport σ)}
    (follows : Follows payload client session) (link : Link σ ρ) (settings : DeliverySettings) :
    ∃ schedule, (session.run (Transport.daemon link) settings schedule).stage
        = .done (.ofStats client.stats client.pending)
      ∧ (session.run (Transport.daemon link) settings schedule).machine.worker.daemon
        = client.worker.daemon := by
  let asked : Session (Transport σ) :=
    { machine := { session.machine with worker := session.machine.worker.setStop true }
      stage := .joining (.ofStats session.machine.worker.stats session.machine.worker.pending) }
  have rests : asked.machine.AtRest := follows.rests
  obtain ⟨schedule, ended, worker⟩ :=
    exists_joined (Transport.daemon link) settings asked rfl rfl rests
  refine ⟨.caller true :: List.replicate 5 (.caller false) ++ schedule, ?_, ?_⟩
  · rw [run_append, run_reading follows.waiting, ended, Client.stats, Client.pending,
      follows.worker_eq]
    rfl
  · rw [run_append, run_reading follows.waiting, worker, follows.worker_eq]
    rfl

/-- What comes of the answer to a poll is what comes of a pass. -/
theorem answerPoll_eq (link : Link σ ρ) (settings : DeliverySettings)
    {worker : Worker (Transport σ)} {stop : Bool} (waits : client.state = .polling)
    (same : client.worker = worker.under stop 2) (going : worker.stop = false) :
    let progress := worker.pass (Transport.daemon link) settings
    ∃ (state : WorkerState) (quiet : Trace), quiet.Quiet
      ∧ state.isDead = (Deed.passed progress.outcome progress.trace).broken
      ∧ (state.isDead = false → state = .next stop)
      ∧ client.answerPoll (Transport.daemon link) settings
        = { trace := progress.trace ++ quiet
            client :=
              { client with worker := progress.worker.under stop state.handles, state } } := by
  rw [← Transport.withoutStop_daemon link]
  exact Client.answerPoll_eq waits same going

/-- A pass of the one is a pass of the other. -/
theorem Follows.pass {session : Session (Transport σ)} (follows : Follows payload client session)
    (polling : client.state = .polling) (link : Link σ ρ) (settings : DeliverySettings) :
    ∃ schedule, Follows payload (client.answerPoll (Transport.daemon link) settings).client
      (session.run (Transport.daemon link) settings schedule) := by
  have same : client.worker = session.machine.worker.under false 2 := by
    rw [follows.worker_eq, polling]
    rfl
  obtain ⟨state, quiet, -, broken, -, answered⟩ :=
    answerPoll_eq link settings polling same follows.going
  obtain ⟨lost, reaches⟩ := Machine.exists_undisturbed (Transport.daemon link) settings
    session.machine (follows.polling polling)
  obtain ⟨schedule, working⟩ := exists_working settings session reaches
  have stop : (session.machine.worker.pass (Transport.daemon link) settings).worker.stop
      = session.machine.worker.stop := by
    rw [Worker.pass_of_going follows.going, ← Transport.withoutStop_daemon]
    exact Worker.stop_poll _
  refine ⟨schedule, ?_⟩
  rw [answered]
  exact {
    alone := follows.alone.run link settings schedule
    waiting := by
      rw [working]
      exact follows.waiting
    going := by
      rw [working, Machine.worker_complete]
      exact stop.trans follows.going
    worker_eq := by
      rw [working, Machine.worker_complete]
    polling := by
      rintro rfl
      rw [working]
      cases outcome : (session.machine.worker.pass (Transport.daemon link) settings).outcome with
      | ok => simp only [Machine.complete, outcome, Machine.finish]
      | error panic =>
        rw [outcome] at broken
        cases broken
    rests := by
      rw [working]
      exact Machine.atRest_complete _ _ _
    joined := follows.joined }

/-- While nothing is settled, the event is waiting between two passes. -/
theorem Follows.queue_eq {session : Session (Transport σ)}
    (follows : Follows payload client session) (polling : client.state = .polling)
    (left : client.done = 0) :
    session.machine.worker.queue.toList = [event payload] := by
  have handed : session.stage ≠ .submitting := by
    rw [follows.waiting]
    nofun
  have count := follows.alone.count_inHand handed
  have none : session.machine.worker.stats.sent.toNat
      + session.machine.worker.stats.rejected.toNat = 0 := by
    rw [Client.done, Client.stats, follows.worker_eq] at left
    exact left
  have idle : session.machine.inHand.length = 0 := by
    rw [Machine.inHand, Machine.unsettled, follows.polling polling]
    rfl
  apply follows.alone.eq_event handed
  · intro other member
    simp only [Machine.places, List.mem_append, member, true_or]
  · have one : session.machine.worker.pending = 1 := by omega
    exact one

end Cli.Session

namespace Cli.Session

variable {σ ρ : Type} [Inhabited ρ] {link : Link σ ρ} {settings : DeliverySettings}
  {payload : Payload} {client : Client (Transport σ)} {session : Session (Transport σ)}

/-- What the worker of a client that is shut down does with its poll. -/
theorem Follows.daemon_shutdown (follows : Follows payload client session)
    (polling : client.state = .polling) :
    (client.shutdown (Transport.daemon link) settings).client.worker.daemon
      = (session.machine.worker.pass (Transport.daemon link) settings).worker.daemon := by
  have same : client.askToStop.worker = session.machine.worker.under true 2 := by
    rw [Client.askToStop, follows.worker_eq, polling]
    rfl
  have waits : client.askToStop.state = .polling := polling
  obtain ⟨state, quiet, -, -, -, answered⟩ := answerPoll_eq link settings waits same follows.going
  simp only [Client.shutdown, follows.joined, Bool.false_eq_true, if_false, answered]
  rfl

/-- Whoever shuts the client down lets the worker of the session make one more pass. -/
theorem Follows.exists_shut (follows : Follows payload client session)
    (polling : client.state = .polling) (link : Link σ ρ) (settings : DeliverySettings) :
    ∃ schedule, (session.run (Transport.daemon link) settings schedule).stage = .waiting
      ∧ (session.run (Transport.daemon link) settings schedule).machine.worker.daemon
        = (client.shutdown (Transport.daemon link) settings).client.worker.daemon := by
  obtain ⟨lost, reaches⟩ := Machine.exists_undisturbed (Transport.daemon link) settings
    session.machine (follows.polling polling)
  obtain ⟨schedule, working⟩ := exists_working settings session reaches
  refine ⟨schedule, ?_, ?_⟩
  · rw [working]
    exact follows.waiting
  · rw [working, Machine.worker_complete, follows.daemon_shutdown polling]

/-- What the caller reads while the daemon is called: the event is nowhere. -/
theorem Follows.exists_read_calling (follows : Follows payload client session)
    (polling : client.state = .polling) (left : client.done = 0)
    (connected :
      (Worker.polling (Transport.daemon link) session.machine.worker).answer = .ok true) :
    ∃ schedule, (session.run (Transport.daemon link) settings schedule).stage
        = .done (.ofStats client.stats 0)
      ∧ (session.run (Transport.daemon link) settings schedule).machine.worker.daemon
        = (client.shutdown (Transport.daemon link) settings).client.worker.daemon := by
  let machine := session.machine
  let loaded := machine.loaded (Transport.daemon link)
  have queue : (Worker.polled (Transport.daemon link) machine.worker).queue.toList
      = [event payload] := by
    rw [Worker.polled, Worker.toList_absorb, follows.queue_eq polling left]
    rfl
  obtain ⟨first, toCall⟩ := exists_working settings session
    (Machine.reaches_sending (follows.polling polling) follows.going connected queue)
  let asked : Machine (Transport σ) := { loaded with worker := loaded.worker.setStop true }
  let progress :=
    Worker.sendInOrder (Transport.daemon link) settings [event payload] 0 0 asked.worker
  obtain ⟨lost, reaches⟩ : ∃ lost, Machine.Reaches (Transport.daemon link) settings
      (asked.proceed 0 0 [event payload]) (asked.complete progress lost) :=
    Machine.reaches_sent [event payload] 0 0 asked
  let calling : Session (Transport σ) :=
    { session with machine := loaded.proceed 0 0 [event payload] }
  let joining : Session (Transport σ) :=
    { machine := asked.proceed 0 0 [event payload], stage := .joining (.ofStats client.stats 0) }
  have read : calling.run (Transport.daemon link) settings
      (.caller true :: List.replicate 5 (.caller false)) = joining := by
    have stats : client.stats = machine.worker.stats := by
      rw [Client.stats, follows.worker_eq]
      rfl
    have waiting : calling.stage = .waiting := follows.waiting
    rw [run_reading waiting]
    simp only [joining, stats]
    rfl
  obtain ⟨second, working⟩ := exists_working settings joining reaches
  -- that the worker is to stop makes no difference to the call that is under way
  have same : progress
      = (Worker.sendInOrder (Transport.daemon link) settings [event payload] 0 0
        loaded.worker).under true loaded.worker.queue.handles := by
    have parted : Worker.sendInOrder (Transport.daemon link).withoutStop settings [event payload]
        0 0 (loaded.worker.under true loaded.worker.queue.handles) = _ :=
      Worker.sendInOrder_under [event payload] 0 0 loaded.worker
    exact parted
  have stop : (asked.complete progress lost).worker.stop = true := by
    rw [Machine.worker_complete, same]
    rfl
  obtain ⟨third, ended, worker⟩ := exists_joined (Transport.daemon link) settings
    { joining with machine := asked.complete progress lost } rfl stop
    (Machine.atRest_complete progress lost asked)
  refine ⟨first ++ (.caller true :: List.replicate 5 (.caller false) ++ (second ++ third)), ?_, ?_⟩
  · rw [run_append, toCall, run_append, read, run_append, working]
    exact ended
  · have waits : ((Worker.polled (Transport.daemon link) machine.worker).observed true).queue.toList
        = [event payload] := queue
    rw [run_append, toCall, run_append, read, run_append, working, worker, Machine.worker_complete,
      same,
      follows.daemon_shutdown polling, Worker.pass_of_connected follows.going connected,
      Worker.drain_of_waiting (by rw [waits]; exact List.cons_ne_nil _ _), waits]
    rfl

end Cli.Session

/-! ## Waiting -/

/-- To poll makes nobody wait for an answer. -/
theorem Transport.waited_poll (path : String) (timeout : Nat) (transport : Transport Site) :
    (transport.poll (Site.link path) timeout).2.beyond.waited = transport.beyond.waited := by
  obtain ⟨bound?, same⟩ := exists_poll path timeout transport
  exact (congrArg Site.waited same).trans rfl

/-- A client that is shut down between two passes leaves its daemon alone. -/
theorem Client.daemon_retire {σ : Type} (client : Client σ) :
    client.retire.client.worker.daemon = client.worker.daemon := by
  rw [retire]
  split
  · rfl
  · split <;> rfl

namespace Cli.Session

variable {path : String} {settings : DeliverySettings} {payload : Payload}
  {client : Client (Transport Site)} {session : Session (Transport Site)}

/-- Only behind a poll that was answered with yes can an answer be waited for. -/
theorem Follows.connected_of_waited (follows : Follows payload client session)
    (polling : client.state = .polling) :
    let daemon := Transport.daemon (Site.link path)
    client.worker.daemon.beyond.waited
        < (client.answerPoll daemon settings).client.worker.daemon.beyond.waited →
      (Worker.polling daemon session.machine.worker).answer = .ok true := by
  intro daemon longer
  have same : client.worker = session.machine.worker.under false 2 := by
    rw [follows.worker_eq, polling]
    rfl
  obtain ⟨state, quiet, -, -, -, answered⟩ :=
    answerPoll_eq (Site.link path) settings polling same follows.going
  cases reached : (session.machine.worker.daemon.poll (Site.link path)
      session.machine.worker.monitor.timeout).1.isReached with
  | true => exact congrArg Except.ok reached
  | false =>
    have missed : (Worker.polling daemon session.machine.worker).answer = .ok false :=
      congrArg Except.ok reached
    rw [answered, Worker.pass_of_disconnected follows.going missed, same] at longer
    exact absurd longer (Nat.not_lt.mpr (Nat.le_of_eq (Transport.waited_poll path _ _)))

/-- **To wait for a client is to wait in a session.** -/
theorem exists_awaited (path : String) (settings : DeliverySettings) (limit : Nat)
    (patience : Patience (Transport Site))
    (clock : patience.waited = fun transport => transport.beyond.waited)
    (follows : Follows payload client session) :
    let daemon := Transport.daemon (Site.link path)
    let waited := client.await daemon settings 1 limit (some patience)
    ∃ schedule, (session.run daemon settings schedule).stage = .done (.ofWait waited)
      ∧ (session.run daemon settings schedule).machine.worker.daemon
        = (waited.shutdown daemon settings).client.worker.daemon := by
  intro daemon
  have between {client : Client (Transport Site)} {session : Session (Transport Site)}
      (follows : Follows payload client session) :
      let waited : Wait (Transport Site) := { client }
      ∃ schedule, (session.run daemon settings schedule).stage = .done (.ofWait waited)
        ∧ (session.run daemon settings schedule).machine.worker.daemon
          = (waited.shutdown daemon settings).client.worker.daemon := by
    obtain ⟨schedule, read, left⟩ := follows.exists_read (Site.link path) settings
    exact ⟨schedule, read, left.trans (Client.daemon_retire client).symm⟩
  induction limit generalizing patience client session with
  | zero => exact between follows
  | succ limit ih =>
    simp only [Client.await]
    split
    · exact between follows
    · rename_i goesOn
      rw [not_or, not_or, not_not] at goesOn
      obtain ⟨few, -, polling⟩ := goesOn
      split
      · rename_i longer
        have more : client.worker.daemon.beyond.waited
            < (client.answerPoll daemon settings).client.worker.daemon.beyond.waited := by
          simp only [Option.any_some, decide_eq_true_eq, Patience.calling, clock] at longer
          exact Nat.lt_of_sub_pos (Nat.zero_lt_of_lt longer)
        have connected := follows.connected_of_waited polling more
        exact follows.exists_read_calling polling (by omega) connected
      · obtain ⟨first, passed⟩ := follows.pass polling (Site.link path) settings
        have behind : (patience.behind client (client.answerPoll daemon settings)).waited
            = fun transport => transport.beyond.waited := clock
        obtain ⟨later, read, left⟩ := ih _ behind passed
        refine ⟨first ++ later, ?_, ?_⟩
        · rw [run_append]
          exact read
        · rw [run_append]
          exact left

/-- The client of a command, when its payload has been handed over. -/
theorem follows_submitted (transport : Transport Site) (path : String) (settings : DeliverySettings)
    (now : Int64) (payload : Payload) :
    Follows (payload.stamped now)
      ((Client.start settings transport).client.submit now payload).client
      ((start settings transport (payload.stamped now)).run (Transport.daemon (Site.link path))
        settings [.caller false]) where
  alone := (alone_start settings _ _).run (Site.link path) settings _
  waiting := rfl
  going := rfl
  worker_eq := by cases payload <;> rfl
  polling := fun _ => rfl
  rests := .inl rfl
  joined := by cases payload <;> rfl

end Cli.Session

namespace Cli

theorem connect_of_socketPath {plugin : PluginConfig} {path : String}
    (named : plugin.socketPath = .ok path) (site : Site) :
    Client.connect plugin site
      = .ok (Transport.daemon (Site.link path),
        { Client.start (DeliverySettings.ofConfig plugin) { beyond := site } with
          notices := [.clientStarting plugin.endpoint] }) := by
  simp only [Client.connect, Site.linkOf, named]
  rfl

/-- **A command that sends a hook is a session.**  What it prints and whether it fails is what the
caller of the session has read, and it leaves behind what the session leaves. -/
theorem send_eq_session (surroundings : Surroundings) {plugin : PluginConfig} {path : String}
    (named : plugin.socketPath = .ok path) (payload : Payload) {drainSeconds : UInt64}
    (tellable : isTellable surroundings.uptime drainSeconds = true) :
    let settings := DeliverySettings.ofConfig plugin
    let daemon := Transport.daemon (Site.link path)
    let begun : Session (Transport Site) :=
      .start settings { beyond := surroundings.site } (payload.stamped surroundings.later)
    let result := send surroundings plugin payload drainSeconds
    ∃ schedule sample, (begun.run daemon settings schedule).stage = .done sample
      ∧ result.lines = sample.report plugin.endpoint
      ∧ result.failure? = sample.failure? drainSeconds
      ∧ result.site = (begun.run daemon settings schedule).machine.worker.daemon.beyond := by
  intro settings daemon begun result
  let transport : Transport Site := { beyond := surroundings.site }
  let client := ((Client.start settings transport).client.submit surroundings.later payload).client
  let patience : Patience (Transport Site) :=
    { left := 1000 * drainSeconds.toNat, waited := fun transport => transport.beyond.waited }
  let limit := surroundings.site.passLimit 1 + patience.left / settings.reconnectBackoff
  let waited := client.await daemon settings 1 limit (some patience)
  obtain ⟨schedule, read, left⟩ := Session.exists_awaited path settings limit patience rfl
    (Session.follows_submitted transport path settings surroundings.later payload)
  have told : ∃ notices, result =
      { notices
        lines := (Sample.ofWait waited).report plugin.endpoint
        failure? := (Sample.ofWait waited).failure? drainSeconds
        site := (waited.shutdown daemon settings).client.worker.daemon.beyond } := by
    simp only [result, send, connect_of_socketPath named, tellable, if_true]
    exact ⟨_, rfl⟩
  obtain ⟨notices, same⟩ := told
  refine ⟨[.caller false] ++ schedule, Sample.ofWait waited, ?_, ?_, ?_, ?_⟩
  · rw [Session.run_append]
    exact read
  · rw [same]
  · rw [same]
  · rw [same, Session.run_append]
    exact congrArg Transport.beyond left.symm

/-- **A command that panics is a session, too**, whose caller has handed the event over and waits.
Nothing is printed, but the client is shut down on the way out, and what it leaves behind is what
the worker of the session leaves behind its first pass. -/
theorem send_of_untellable (surroundings : Surroundings) {plugin : PluginConfig} {path : String}
    (named : plugin.socketPath = .ok path) (payload : Payload) {drainSeconds : UInt64}
    (untellable : isTellable surroundings.uptime drainSeconds = false) :
    let settings := DeliverySettings.ofConfig plugin
    let daemon := Transport.daemon (Site.link path)
    let begun : Session (Transport Site) :=
      .start settings { beyond := surroundings.site } (payload.stamped surroundings.later)
    let result := send surroundings plugin payload drainSeconds
    ∃ schedule, (begun.run daemon settings schedule).stage = .waiting
      ∧ .enqueued payload.hookType ∈ result.notices
      ∧ result.lines = []
      ∧ result.failure? = some (.panic clockOverflow)
      ∧ result.site = (begun.run daemon settings schedule).machine.worker.daemon.beyond := by
  intro settings daemon begun result
  let transport : Transport Site := { beyond := surroundings.site }
  let started : ClientStep (Transport Site) :=
    { Client.start settings transport with notices := [.clientStarting plugin.endpoint] }
  let submitted := started.client.submit surroundings.later payload
  have handedOver : .enqueued payload.hookType ∈ submitted.notices := by
    cases payload <;> exact List.mem_cons_self
  have polling : submitted.client.state = .polling := by cases payload <;> rfl
  obtain ⟨schedule, waiting, left⟩ := (Session.follows_submitted transport path settings
    surroundings.later payload).exists_shut polling (Site.link path) settings
  have same : result =
      { notices := started.notices ++ started.trace.notices ++ submitted.notices
          ++ (submitted.client.shutdown daemon settings).closing
        failure? := some (.panic clockOverflow)
        site := (submitted.client.shutdown daemon settings).client.worker.daemon.beyond } := by
    simp only [result, send, connect_of_socketPath named, untellable, Bool.false_eq_true, if_false]
    rfl
  refine ⟨[.caller false] ++ schedule, ?_, ?_, ?_, ?_, ?_⟩
  · rw [Session.run_append]
    exact waiting
  · rw [same]
    exact List.mem_append_left _ (List.mem_append_right _ handedOver)
  · rw [same]
  · rw [same]
  · rw [same, Session.run_append]
    exact congrArg Transport.beyond left.symm

end Cli

end JobHooks
