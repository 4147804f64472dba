import JobHooks.Proofs.Client.Life

/-!
# The life cycle of a client

A client runs until it is shut down for the first time, and its worker waits in a poll until then,
unless a poll or a call panics before.  Either way the worker is over: whatever is done with the
client later, no poll and no call is made and the totals stay as they are (`Client.live_of_over`).
Hooks can be handed over at any time; with nobody to take them they pile up.

The panic is reported when the client is shut down for the first time, by the client and not by its
worker: `Worker.sourced_poll` says whose reports are in the trace.  As long as there was no panic,
every event is accepted, rejected or waiting (`Client.Mirrors.balance`), which is what
`History.Balanced` says of the history that the life mirrors.  `Client.life_cycle` puts this
together.
-/

namespace JobHooks

set_option autoImplicit false

/-! ## Who reports what -/

/-- Whether a notice is one that a client reports itself, and not its worker. -/
def Notice.ofClient : Notice → Bool
  | clientStarting _ | clientEnding | workerPanicked | enqueued _ => true
  | loadingFile _ | fileMissing _ | workerStarted _ _ | workerStopped _ | connected | notConnected
  | dequeued _ | sending _ | sent _ | rejected _ _ _ | deferred _ _ _ _ | checkingDaemon _
  | dialFailed _ | dialTimedOut _ | droppingChannel _ => false

/-- What a daemon reports that is kept from the request to stop, the daemon itself reports. -/
theorem Daemon.Reports.of_withoutStop {σ : Type} {daemon : Daemon σ} {notice : Notice}
    (reports : daemon.withoutStop.Reports notice) : daemon.Reports notice := by
  rcases reports with ⟨timeout, state, given⟩ | ⟨call, state, given⟩
  · exact .inl ⟨timeout, state, given⟩
  · rw [Daemon.receive_withoutStop] at given
    exact .inr ⟨call, state, given⟩

/-- A client's own notices are not reported by its worker; only the daemon could forge them. -/
def Occurrence.Sourced {σ : Type} (daemon : Daemon σ) (moment : Occurrence) : Prop :=
  ∀ notice, moment = .noted notice → notice.ofClient = true → daemon.Reports notice

namespace Trace

variable {σ : Type} {daemon : Daemon σ}

theorem sourced_noted {notices : List Notice}
    (each : ∀ notice ∈ notices, notice.ofClient = true → daemon.Reports notice) :
    ∀ moment ∈ (notices.map .noted : Trace), moment.Sourced daemon := by
  rintro _ member notice rfl own
  obtain ⟨other, listed, same⟩ := List.mem_map.mp member
  obtain rfl := Occurrence.noted.inj same
  exact each other listed own

/-- Reports none of which is a client's own. -/
theorem sourced_of_foreign {notices : List Notice}
    (foreign : ∀ notice ∈ notices, notice.ofClient = false) :
    ∀ moment ∈ (notices.map .noted : Trace), moment.Sourced daemon :=
  sourced_noted fun notice listed own => absurd (own.symm.trans (foreign notice listed)) nofun

end Trace

namespace Worker

variable {σ : Type} {daemon : Daemon σ} {settings : DeliverySettings}

theorem sourced_attemptTrace (event : Event) (worker : Worker σ) :
    ∀ moment ∈ attemptTrace daemon settings event worker, moment.Sourced daemon := by
  rw [attemptTrace_receive]
  refine List.forall_mem_append.mpr ⟨Trace.sourced_noted ?_, List.forall_mem_singleton.mpr nofun⟩
  refine List.forall_mem_cons.mpr ⟨nofun, ?_⟩
  exact fun notice given _ => .inr ⟨_, _, given⟩

theorem sourced_sendInOrder (batch : List Event) (sent rejected : Nat) (worker : Worker σ) :
    ∀ moment ∈ (sendInOrder daemon settings batch sent rejected worker).trace,
      moment.Sourced daemon := by
  induction batch generalizing sent rejected worker with
  | nil => exact fun _ member => absurd member List.not_mem_nil
  | cons event rest ih =>
    have call : ∀ moment ∈ attemptTrace daemon settings event worker, moment.Sourced daemon :=
      sourced_attemptTrace event worker
    have report {notice : Notice} (foreign : notice.ofClient = false) :
        ∀ moment ∈ attemptTrace daemon settings event worker ++ [.noted notice],
          moment.Sourced daemon :=
      List.forall_mem_append.mpr
        ⟨call, Trace.sourced_of_foreign (List.forall_mem_singleton.mpr foreign)⟩
    cases answer : (reaction daemon settings event worker).answer with
    | error panic =>
      rw [sendInOrder_of_panic rest sent rejected answer]
      exact call
    | ok result =>
      cases result with
      | ok =>
        rw [sendInOrder_of_accepted rest sent rejected answer]
        exact List.forall_mem_append.mpr ⟨report rfl, ih _ _ _⟩
      | error status =>
        cases transient : status.isTransient with
        | false =>
          rw [sendInOrder_of_rejected rest sent rejected answer transient]
          exact List.forall_mem_append.mpr ⟨report rfl, ih _ _ _⟩
        | true =>
          rw [sendInOrder_of_unavailable rest sent rejected answer transient]
          exact report rfl

theorem sourced_drain (worker : Worker σ) :
    ∀ moment ∈ (drain daemon settings worker).trace, moment.Sourced daemon := by
  by_cases nothing : worker.queue.toList = []
  · rw [drain_of_nothing nothing]
    exact fun _ member => absurd member List.not_mem_nil
  · rw [drain_of_waiting nothing]
    refine List.forall_mem_cons.mpr ⟨nofun, List.forall_mem_cons.mpr ⟨?_, ?_⟩⟩
    · rintro _ ⟨⟩ own
      cases own
    · exact sourced_sendInOrder _ 0 0 _

/-- **What is reported behind the beginning of a pass is the worker's to report, or the daemon
itself reports it.** -/
theorem sourced_poll (worker : Worker σ) :
    ∀ moment ∈ (poll daemon settings worker).trace, moment.Sourced daemon := by
  have asked : ∀ moment ∈ pollTrace daemon [] worker, moment.Sourced daemon :=
    List.forall_mem_append.mpr
      ⟨Trace.sourced_noted fun _ given _ => .inl ⟨_, _, given⟩,
        List.forall_mem_singleton.mpr nofun⟩
  cases answer : (polling daemon worker).answer with
  | error panic =>
    rw [poll_of_panic answer]
    exact asked
  | ok connected =>
    rw [poll_of_answer answer]
    refine List.forall_mem_append.mpr ⟨asked, ?_⟩
    have noticed : ∀ notice ∈ (polled daemon worker).monitor.notices connected,
        notice.ofClient = false := by
      intro notice given
      obtain ⟨transition, -, rfl⟩ := List.mem_map.mp given
      cases transition <;> rfl
    cases connected with
    | false => exact Trace.sourced_of_foreign noticed
    | true => exact List.forall_mem_append.mpr ⟨Trace.sourced_of_foreign noticed, sourced_drain _⟩

end Worker

namespace Client

variable {σ : Type} {daemon : Daemon σ} {settings : DeliverySettings} {clock : Nat → Int64}

theorem sourced_settle (client : Client σ) {earlier : Trace}
    (sourced : ∀ moment ∈ earlier, moment.Sourced daemon) :
    ∀ moment ∈ (client.settle earlier).trace, moment.Sourced daemon := by
  unfold settle
  split
  · exact List.forall_mem_append.mpr
      ⟨sourced, Trace.sourced_of_foreign (List.forall_mem_singleton.mpr rfl)⟩
  · exact sourced

theorem sourced_answerPoll (client : Client σ) :
    ∀ moment ∈ (client.answerPoll daemon settings).trace, moment.Sourced daemon := by
  have asked : ∀ moment ∈ (Worker.poll daemon.withoutStop settings client.worker).trace,
      moment.Sourced daemon := fun moment member notice same own =>
    (Worker.sourced_poll client.worker moment member notice same own).of_withoutStop
  unfold answerPoll
  split
  · simp only
    split
    · exact asked
    · refine sourced_settle _ (List.forall_mem_append.mpr ⟨asked, ?_⟩)
      rintro _ member _ rfl
      obtain ⟨_, -, same⟩ := List.mem_map.mp member
      cases same
  · exact fun _ member => absurd member List.not_mem_nil

theorem sourced_perform (client : Client σ) (operation : Operation σ) :
    ∀ moment ∈ (perform daemon settings clock client operation).trace, moment.Sourced daemon := by
  have nothing : ∀ moment ∈ ([] : Trace), moment.Sourced daemon :=
    fun _ member => absurd member List.not_mem_nil
  cases operation with
  | startJobs | finishJobs | monitorJob | adjust => exact nothing
  | answerPoll => exact sourced_answerPoll client
  | shutdown =>
    rw [perform, Client.shutdown]
    split
    · exact nothing
    · exact sourced_answerPoll client.askToStop
  | retire =>
    rw [perform, Client.retire]
    split
    · exact nothing
    · split
      · exact sourced_settle _ nothing
      · exact nothing

/-- **What the worker of a client reports is not the client's to report.** -/
theorem sourced_live (operations : List (Operation σ)) {life : ClientStep σ}
    (sourced : ∀ moment ∈ life.trace, moment.Sourced daemon) :
    ∀ moment ∈ (live daemon settings clock operations life).trace, moment.Sourced daemon := by
  induction operations generalizing life with
  | nil => exact sourced
  | cons operation operations ih =>
    exact ih (List.forall_mem_append.mpr ⟨sourced, sourced_perform life.client operation⟩)

/-! ## Until the client is shut down -/

theorem joined_answerPoll (client : Client σ) :
    (client.answerPoll daemon settings).client.joined = client.joined := by
  obtain ⟨worker, state, same⟩ := exists_answerPoll daemon settings client
  rw [same]

/-- The end of the worker has been waited for when the client has been shut down. -/
theorem joined_perform (client : Client σ) (operation : Operation σ) :
    (perform daemon settings clock client operation).client.joined
      = (client.joined || operation.shutsDown) := by
  cases operation with
  | startJobs | finishJobs | monitorJob | adjust => exact (Bool.or_false _).symm
  | answerPoll => exact (joined_answerPoll client).trans (Bool.or_false _).symm
  | shutdown =>
    rw [Operation.shutsDown, Bool.or_true, perform, Client.shutdown]
    split
    · next joined => exact joined
    · rfl
  | retire =>
    rw [Operation.shutsDown, Bool.or_true, perform, Client.retire]
    split
    · next joined => exact joined
    · split <;> rfl

theorem joined_live (operations : List (Operation σ)) (life : ClientStep σ) :
    (live daemon settings clock operations life).client.joined
      = (life.client.joined || operations.any Operation.shutsDown) := by
  induction operations generalizing life with
  | nil => exact (Bool.or_false _).symm
  | cons operation operations ih =>
    have joined : (perform daemon settings clock life.client operation).client.joined
        = (life.client.joined || operation.shutsDown) := joined_perform life.client operation
    rw [List.any_cons, ← Bool.or_assoc, ← joined]
    exact ih _

/-! ## When the worker is over -/

/-- What a step leaves of a client whose worker is over, when so many events were submitted. -/
structure Idles (submitted : Nat) (client : Client σ) (step : ClientStep σ) : Prop where
  trace_eq : step.trace = []
  state_eq : step.client.state = client.state
  stats_eq : step.client.stats = client.stats
  pending_eq : step.client.pending = client.pending + submitted

/-- **Whatever is done with a client whose worker is over, nothing is done by the worker.** -/
theorem idles_perform {client : Client σ} (spent : client.state ≠ .polling)
    (operation : Operation σ) :
    Idles operation.submits.toNat client (perform daemon settings clock client operation) := by
  have asked : Idles 0 client { client := client.askToStop } := ⟨rfl, rfl, rfl, rfl⟩
  cases operation with
  | startJobs | finishJobs | monitorJob =>
    refine ⟨rfl, rfl, rfl, ?_⟩
    exact List.length_append
  | adjust => exact ⟨rfl, rfl, rfl, rfl⟩
  | answerPoll =>
    rw [perform, answerPoll_of_ne spent]
    exact ⟨rfl, rfl, rfl, rfl⟩
  | shutdown =>
    have still : client.askToStop.state ≠ .polling := spent
    rw [perform, Client.shutdown, answerPoll_of_ne still]
    split
    · exact asked
    · exact ⟨rfl, rfl, rfl, rfl⟩
  | retire =>
    rw [perform, Client.retire]
    split
    · exact asked
    · split
      · next waits => exact absurd waits spent
      · exact ⟨rfl, rfl, rfl, rfl⟩

/-- **A worker that is over does nothing more**, and what is submitted waits. -/
theorem live_of_over (later : List (Operation σ)) {life : ClientStep σ}
    (spent : life.client.state ≠ .polling) :
    let after := live daemon settings clock later life
    after.trace = life.trace ∧ after.client.stats = life.client.stats
      ∧ after.client.pending = life.client.pending + later.countP Operation.submits := by
  induction later generalizing life with
  | nil => exact ⟨rfl, rfl, rfl⟩
  | cons operation later ih =>
    let next := life.followedBy (perform daemon settings clock life.client operation)
    have idles : Idles operation.submits.toNat life.client
        (perform daemon settings clock life.client operation) := idles_perform spent operation
    have still : next.client.state ≠ .polling := fun waits => spent (idles.state_eq.symm.trans waits)
    obtain ⟨trace, stats, pending⟩ := ih still
    have silent : next.trace = life.trace :=
      (congrArg (life.trace ++ ·) idles.trace_eq).trans (List.append_nil life.trace)
    have more : next.client.pending = life.client.pending + operation.submits.toNat :=
      idles.pending_eq
    refine ⟨trace.trans silent, stats.trans idles.stats_eq, pending.trans ?_⟩
    rw [more, Operation.countP_cons, Nat.add_assoc]

/-! ## Where the events are -/

section

variable {submitted : Nat} {life : ClientStep σ} {state : σ} {actions : List (Action σ)}

/-- **Where there was no panic, every event was accepted, was rejected, or is waiting**, however the
totals wrap around. -/
theorem Mirrors.balance
    (mirrors : Mirrors submitted life
      (.run daemon.withoutStop settings actions (.fresh settings state)))
    (alive : life.client.state.isDead = false) :
    ∃ sent rejected,
      submitted + life.trace.arrived.length = sent + rejected + life.client.pending
        ∧ life.client.stats.sent = UInt64.ofNat sent
        ∧ life.client.stats.rejected = UInt64.ofNat rejected := by
  let history := History.run daemon.withoutStop settings actions (.fresh settings state)
  have balanced : history.Balanced :=
    History.balanced_run daemon.withoutStop settings state actions
  obtain ⟨sent, rejected⟩ : history.worker.stats.sent = UInt64.ofNat history.accepted.length
      ∧ history.worker.stats.rejected = UInt64.ofNat history.rejected.length :=
    History.counted_run daemon.withoutStop settings state actions
  have stats : life.client.stats = history.worker.stats :=
    (congrArg Worker.stats mirrors.worker_eq).trans rfl
  have waiting : history.waiting.length = life.client.pending :=
    (congrArg Worker.pending mirrors.worker_eq).symm
  refine ⟨history.accepted.length, history.rejected.length, ?_, ?_, ?_⟩
  · calc submitted + life.trace.arrived.length
        = history.handedOver.length := mirrors.length_eq.symm
      _ = (history.settled ++ history.waiting ++ history.lost).length := balanced.perm.length_eq
      _ = history.settled.length + history.waiting.length := by
        rw [balanced.nothing_lost (mirrors.unbroken alive), List.append_nil, List.length_append]
      _ = history.accepted.length + history.rejected.length + life.client.pending := by
        rw [waiting, History.settled, (Attempts.settled_perm history.attempts).length_eq,
          List.length_append]
        rfl
  · rw [stats, sent]
  · rw [stats, rejected]

end

/-! ## What is reported of a panic -/

section

variable {submitted : Nat} {life : ClientStep σ} {history : History σ}

/-- A client that has been shut down is not shut down again. -/
theorem Mirrors.perform_of_joined (mirrors : Mirrors submitted life history)
    (joined : life.client.joined = true) {operation : Operation σ}
    (ends : operation.shutsDown = true) :
    perform daemon settings clock life.client operation = { client := life.client } := by
  have same := mirrors.askToStop_of_joined joined
  cases operation with
  | startJobs | finishJobs | monitorJob | adjust | answerPoll => cases ends
  | shutdown => rw [perform, Client.shutdown, if_pos joined, same]
  | retire => rw [perform, Client.retire, if_pos joined, same]

/-- **Who reports a panic is the first shutdown, and there was one.** -/
theorem Mirrors.panic_of_reported (mirrors : Mirrors submitted life history)
    {operation : Operation σ}
    (reported :
      .workerPanicked ∈ (perform daemon settings clock life.client operation).notices) :
    operation.shutsDown = true ∧ life.client.joined = false
      ∧ ∃ moment ∈ life.trace ++ (perform daemon settings clock life.client operation).trace,
        ∃ panic, moment.panic? = some panic := by
  let step := perform daemon settings clock life.client operation
  have later : Mirrors _ (life.followedBy step) _ := mirrors.advance operation
  have once : 0 < step.notices.count .workerPanicked := List.count_pos_iff.mpr reported
  have number : (life.client.joined && life.client.state.isDead).toNat
        + step.notices.count .workerPanicked
      = ((life.client.joined || operation.shutsDown) && step.client.state.isDead).toNat := by
    rw [← joined_perform, ← mirrors.reported, ← List.count_append]
    exact later.reported
  have open_ : life.client.joined = false := by
    refine eq_false_of_ne_true fun joined => ?_
    have still : step.client.state = life.client.state :=
      (idles_perform (mirrors.ne_polling joined) operation).state_eq
    rw [joined, still, Bool.true_and, Bool.true_or, Bool.true_and] at number
    omega
  rw [open_, Bool.false_and, Bool.false_or] at number
  have both : (operation.shutsDown && step.client.state.isDead) = true := by
    by_contra neither
    rw [eq_false_of_ne_true neither, Bool.toNat_false] at number
    omega
  obtain ⟨ends, dead⟩ := Bool.and_eq_true_iff.mp both
  exact ⟨ends, open_, later.panicked dead⟩

end

/-! ## The life cycle -/

/-- **The life cycle of a client**, whatever is done with it, whatever the daemon answers and hands
over meanwhile, and wherever a panic ends its worker.

* It is running until it is shut down for the first time; its worker waits in a poll as long as
  it is running and has not panicked.
* Whatever is submitted is waiting at the end of the queue at once.
* When the worker is over, no poll and no call is made, the totals stay as they are, and exactly
  what is submitted is added to what is waiting.
* Once it has been shut down, the worker is over, and every later shutdown does nothing at all.
* That the worker has panicked is reported once at most, by the first shutdown, and only if a poll
  or a call has panicked.  The worker itself never reports it, only the daemon could.
* As long as the worker has not panicked, the events submitted, together with those handed over
  while it waited for an answer, are those accepted, those rejected and those waiting. -/
theorem life_cycle (daemon : Daemon σ) (settings : DeliverySettings) (clock : Nat → Int64)
    (state : σ) (operations : List (Operation σ)) :
    let life := live daemon settings clock operations (start settings state)
    let client := life.client
    let submitted := operations.countP Operation.submits + life.trace.arrived.length
    (client.isRunning = true ↔ ∀ operation ∈ operations, operation.shutsDown = false)
      ∧ (client.state = .polling ↔ client.isRunning = true ∧ client.state.isDead = false)
      ∧ (∀ operation payload, operation.payload? (clock client.clockReads) = some payload →
        let step := perform daemon settings clock client operation
        step.client.worker.queue.toList
            = client.worker.queue.toList ++ [⟨payload, client.worker.arrivals⟩]
          ∧ step.client.pending = client.pending + 1
          ∧ step.client.state = client.state
          ∧ step.trace = [])
      ∧ (client.state ≠ .polling → ∀ later,
        let after := live daemon settings clock later life
        after.trace = life.trace ∧ after.client.stats = client.stats
          ∧ after.client.pending = client.pending + later.countP Operation.submits)
      ∧ (client.isRunning = false → ∀ operation, operation.shutsDown = true →
        perform daemon settings clock client operation = { client })
      ∧ (life.notices.count .workerPanicked ≤ 1
        ∧ (∀ operation,
          .workerPanicked ∈ (perform daemon settings clock client operation).notices →
          operation.shutsDown = true ∧ client.isRunning = true
            ∧ ∃ moment ∈ life.trace ++ (perform daemon settings clock client operation).trace,
              ∃ panic, moment.panic? = some panic)
        ∧ (.noted .workerPanicked ∈ life.trace → daemon.Reports .workerPanicked))
      ∧ (client.state.isDead = false →
        UInt64.ofNat submitted
            = client.stats.sent + client.stats.rejected + UInt64.ofNat client.pending
          ∧ (submitted < UInt64.size →
            submitted
              = client.stats.sent.toNat + client.stats.rejected.toNat + client.pending)) := by
  intro life client submitted
  obtain ⟨actions, mirrors⟩ := exists_mirror daemon settings clock state operations
  have joined : client.joined = operations.any Operation.shutsDown :=
    joined_live operations (start settings state)
  refine ⟨?_, ?_, ?_, fun spent later => live_of_over later spent, ?_, ⟨?_, ?_, ?_⟩, ?_⟩
  · rw [isRunning, joined, Bool.not_eq_true', List.any_eq_false]
    simp only [Bool.not_eq_true]
  · rw [isRunning, Bool.not_eq_true']
    constructor
    · intro waits
      refine ⟨eq_false_of_ne_true fun joined => mirrors.ne_polling joined waits, ?_⟩
      rw [waits]
      rfl
    · rintro ⟨open_, alive⟩
      have next := mirrors.state_eq alive
      rw [open_] at next
      exact next
  · intro operation payload given
    rw [perform_of_payload given]
    exact ⟨rfl, List.length_append, rfl, rfl⟩
  · intro joined operation ends
    rw [isRunning, Bool.not_eq_false'] at joined
    exact mirrors.perform_of_joined joined ends
  · rw [mirrors.reported]
    exact Bool.toNat_le _
  · intro operation reported
    obtain ⟨ends, open_, panicked⟩ := mirrors.panic_of_reported reported
    exact ⟨ends, by rw [isRunning, open_]; rfl, panicked⟩
  · intro reported
    have started : ∀ moment ∈ (start settings state).trace, moment.Sourced daemon :=
      Trace.sourced_of_foreign (List.forall_mem_singleton.mpr rfl)
    exact sourced_live operations started _ reported _ rfl rfl
  · intro alive
    obtain ⟨sent, rejected, whole, sentTotal, rejectedTotal⟩ := mirrors.balance alive
    have counted : submitted = sent + rejected + client.pending := whole
    refine ⟨?_, fun small => ?_⟩
    · rw [sentTotal, rejectedTotal, counted, UInt64.ofNat_add, UInt64.ofNat_add]
    · rw [sentTotal, rejectedTotal, UInt64.toNat_ofNat_of_lt' (by omega),
        UInt64.toNat_ofNat_of_lt' (by omega), counted]

/-- An event is put off and then accepted; at the call for the next one the worker panics, which is
reported when the client is shut down.  A hook that is submitted behind that waits for ever. -/
theorem life_cycle_faltering :
    let quiet : List (Operation Nat) := [.startJobs [], .answerPoll, .answerPoll]
    let broken := quiet ++ [.startJobs [], .answerPoll]
    let ended := broken ++ [.shutdown]
    let life (operations : List (Operation Nat)) :=
      live History.faltering {} (fun _ => 0) operations (start {} 0)
    let report := perform History.faltering {} (fun _ => 0) (life broken).client .shutdown
    let more := perform History.faltering {} (fun _ => 0) (life broken).client (.startJobs [])
    let after := live History.faltering {} (fun _ => 0) [.startJobs [], .answerPoll] (life ended)
    (life quiet).client.state = .polling
      ∧ 1 = (life quiet).client.stats.sent.toNat + (life quiet).client.stats.rejected.toNat
        + (life quiet).client.pending
      ∧ (life broken).client.isRunning = true ∧ (life broken).client.state ≠ .polling
      ∧ more.client.pending = (life broken).client.pending + 1
      ∧ .workerPanicked ∈ report.notices
      ∧ (∃ moment ∈ (life broken).trace ++ report.trace, ∃ panic, moment.panic? = some panic)
      ∧ (life ended).client.isRunning = false
      ∧ perform History.faltering {} (fun _ => 0) (life ended).client .shutdown
        = { client := (life ended).client }
      ∧ after.trace = (life ended).trace
      ∧ after.client.pending = (life ended).client.pending + 1 := by
  intro quiet broken ended life report more after
  obtain ⟨-, waits, -, -, -, -, whole⟩ := life_cycle History.faltering {} (fun _ => 0) 0 quiet
  obtain ⟨-, -, handed, -, -, ⟨-, reported, -⟩, -⟩ :=
    life_cycle History.faltering {} (fun _ => 0) 0 broken
  obtain ⟨-, -, -, rest, again, -, -⟩ := life_cycle History.faltering {} (fun _ => 0) 0 ended
  have told : .workerPanicked ∈ report.notices := by decide
  obtain ⟨-, running, panicked⟩ := reported .shutdown told
  have gone : (life ended).client.state ≠ .polling := by decide
  obtain ⟨trace, -, pending⟩ := rest gone [.startJobs [], .answerPoll]
  exact ⟨waits.mpr ⟨rfl, rfl⟩, (whole rfl).2 (by decide), running, by decide,
    (handed (.startJobs []) (.start []) rfl).2.1, told, panicked, rfl, again rfl .shutdown rfl,
    trace, pending⟩

end Client

end JobHooks
