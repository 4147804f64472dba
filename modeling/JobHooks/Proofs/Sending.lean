import JobHooks.Proofs.Attempts

/-!
# How a batch is sent

The worker calls the daemon for the events of a batch front to back until one of three things
happens: no event is left, an event finds the daemon unreachable, or a call panics.  `Finish` names
the three.  `Worker.exists_sent` says everything that sending a batch does in these terms: which
events are settled, what is left of the batch, what the daemon was called for, and how the queue and
the totals have changed.
-/

namespace JobHooks

set_option autoImplicit false

/-! ## Traces -/

/-- What was handed over while something happened. -/
def Occurrence.arrived : Occurrence → List Event
  | .polled _ meanwhile _ => meanwhile.arrived
  | .called attempt => attempt.meanwhile.arrived
  | .taken _ | .noted _ | .paused _ => []

namespace Trace

/-- Everything that was handed over in the course of a trace. -/
def arrived (trace : Trace) : List Event := trace.flatMap Occurrence.arrived

/-- Everything that was taken from the queue in the course of a trace. -/
def taken (trace : Trace) : List Event :=
  trace.flatMap fun
    | .taken batch => batch
    | _ => []

@[simp] theorem attempts_append (earlier later : Trace) :
    attempts (earlier ++ later) = attempts earlier ++ attempts later :=
  List.filterMap_append

@[simp] theorem polls_append (earlier later : Trace) :
    polls (earlier ++ later) = polls earlier ++ polls later :=
  List.filterMap_append

@[simp] theorem arrived_append (earlier later : Trace) :
    arrived (earlier ++ later) = arrived earlier ++ arrived later :=
  List.flatMap_append

@[simp] theorem taken_append (earlier later : Trace) :
    taken (earlier ++ later) = taken earlier ++ taken later :=
  List.flatMap_append

/-- Notices add nothing to what is picked out of a trace one by one. -/
theorem filterMap_noted {α : Type} {pick : Occurrence → Option α}
    (silent : ∀ notice, pick (.noted notice) = none) (notices : List Notice) :
    (notices.map Occurrence.noted).filterMap pick = [] := by
  rw [List.filterMap_map, List.filterMap_eq_nil_iff]
  exact fun notice _ => silent notice

/-- Notices add nothing to what is gathered from a trace. -/
theorem flatMap_noted {α : Type} {gather : Occurrence → List α}
    (silent : ∀ notice, gather (.noted notice) = []) (notices : List Notice) :
    (notices.map Occurrence.noted).flatMap gather = [] := by
  rw [List.flatMap_map, List.flatMap_eq_nil_iff]
  exact fun notice _ => silent notice

@[simp] theorem attempts_map_noted (notices : List Notice) :
    attempts (notices.map .noted) = [] :=
  filterMap_noted (fun _ => rfl) notices

@[simp] theorem polls_map_noted (notices : List Notice) : polls (notices.map .noted) = [] :=
  filterMap_noted (fun _ => rfl) notices

@[simp] theorem arrived_map_noted (notices : List Notice) :
    arrived (notices.map .noted) = [] :=
  flatMap_noted (fun _ => rfl) notices

@[simp] theorem taken_map_noted (notices : List Notice) : taken (notices.map .noted) = [] :=
  flatMap_noted (fun _ => rfl) notices

end Trace

/-! ## Crediting and returning events -/

/-- The totals after so many more events were sent, rejected and returned. -/
def DeliveryStats.credit (stats : DeliveryStats) (sent rejected requeued : Nat) : DeliveryStats :=
  { stats with
    sent := stats.sent + UInt64.ofNat sent
    rejected := stats.rejected + UInt64.ofNat rejected
    requeued := stats.requeued + UInt64.ofNat requeued }

@[simp] theorem DeliveryStats.credit_zero (stats : DeliveryStats) :
    stats.credit 0 0 0 = stats := by
  have nothing : UInt64.ofNat 0 = 0 := rfl
  simp only [credit, nothing, UInt64.add_zero]

namespace Worker

variable {σ : Type} {daemon : Daemon σ} {settings : DeliverySettings}

/-- The worker with more credited to its totals. -/
def credit (sent rejected requeued : Nat) (worker : Worker σ) : Worker σ :=
  { worker with stats := worker.stats.credit sent rejected requeued }

/-- The worker with events returned to its queue. -/
def giveBack (events : List Event) (worker : Worker σ) : Worker σ :=
  { worker with queue := worker.queue.enqueueAll events }

@[simp] theorem giveBack_nil (worker : Worker σ) : worker.giveBack [] = worker := by
  simp only [giveBack, Queue.enqueueAll, List.append_nil]

@[simp] theorem credit_zero (worker : Worker σ) : worker.credit 0 0 0 = worker := by
  rw [credit, DeliveryStats.credit_zero]

theorem credit_sent (worker : Worker σ) :
    worker.credit 1 0 0
      = { worker with stats := { worker.stats with sent := worker.stats.sent + 1 } } := by
  have nothing : UInt64.ofNat 0 = 0 := rfl
  have one : UInt64.ofNat 1 = 1 := rfl
  simp only [credit, DeliveryStats.credit, nothing, one, UInt64.add_zero]

theorem credit_rejected (worker : Worker σ) :
    worker.credit 0 1 0
      = { worker with stats := { worker.stats with rejected := worker.stats.rejected + 1 } } := by
  have nothing : UInt64.ofNat 0 = 0 := rfl
  have one : UInt64.ofNat 1 = 1 := rfl
  simp only [credit, DeliveryStats.credit, nothing, one, UInt64.add_zero]

theorem credit_requeued (requeued : Nat) (worker : Worker σ) :
    worker.credit 0 0 requeued
      = { worker with stats :=
          { worker.stats with requeued := worker.stats.requeued + UInt64.ofNat requeued } } := by
  have nothing : UInt64.ofNat 0 = 0 := rfl
  simp only [credit, DeliveryStats.credit, nothing, UInt64.add_zero]

theorem credit_credit (sent rejected moreSent moreRejected requeued : Nat) (worker : Worker σ) :
    (worker.credit sent rejected 0).credit moreSent moreRejected requeued
      = worker.credit (sent + moreSent) (rejected + moreRejected) requeued := by
  have nothing : UInt64.ofNat 0 = 0 := rfl
  simp only [credit, DeliveryStats.credit, UInt64.ofNat_add, UInt64.add_assoc, nothing,
    UInt64.zero_add]

/-- The totals play no part in an exchange. -/
theorem exchange_credit (sent rejected requeued : Nat) (events : List Event)
    (worker : Worker σ) :
    exchange daemon settings events (worker.credit sent rejected requeued)
      = ((exchange daemon settings events worker).1,
        (exchange daemon settings events worker).2.credit sent rejected requeued) := by
  induction events generalizing worker with
  | nil => rfl
  | cons event events ih =>
    have same : called daemon settings event (worker.credit sent rejected requeued)
        = (called daemon settings event worker).credit sent rejected requeued := rfl
    simp only [exchange, same, ih]
    rfl

end Worker

/-! ## The call for one event -/

/-- A payload is sent through the entry of its own kind, so that the daemon is called for it. -/
theorem Daemon.call?_dispatch {σ : Type} (daemon : Daemon σ) (context : CallContext)
    (payload : Payload) (state : σ) :
    (daemon.dispatch context payload state).call? = some ⟨payload.hookType, context, payload⟩ := by
  cases payload <;> rfl

namespace Worker

variable {σ : Type} (daemon : Daemon σ) (settings : DeliverySettings)

/-- The trace of a call for an event. -/
def attemptTrace (event : Event) (worker : Worker σ) : Trace :=
  callTrace event (worker.meanwhile (reaction daemon settings event worker).effects)
    (daemon.dispatch (.fresh settings.rpcTimeout) event.payload worker.daemon)

variable (event : Event) (worker : Worker σ)

theorem attemptTrace_eq :
    ∃ notices : List Notice, attemptTrace daemon settings event worker
      = notices.map .noted ++ [.called (attempt daemon settings event worker)] := by
  refine ⟨(daemon.dispatch (.fresh settings.rpcTimeout) event.payload worker.daemon).notices, ?_⟩
  rw [attemptTrace, callTrace, Daemon.call?_dispatch]
  rfl

@[simp] theorem attempts_attemptTrace :
    (attemptTrace daemon settings event worker).attempts
      = [attempt daemon settings event worker] := by
  obtain ⟨notices, same⟩ := attemptTrace_eq daemon settings event worker
  rw [same, Trace.attempts_append, Trace.attempts_map_noted]
  rfl

@[simp] theorem arrived_attemptTrace :
    (attemptTrace daemon settings event worker).arrived
      = (attempt daemon settings event worker).meanwhile.arrived := by
  obtain ⟨notices, same⟩ := attemptTrace_eq daemon settings event worker
  rw [same, Trace.arrived_append, Trace.arrived_map_noted]
  exact List.append_nil _

@[simp] theorem polls_attemptTrace : (attemptTrace daemon settings event worker).polls = [] := by
  obtain ⟨notices, same⟩ := attemptTrace_eq daemon settings event worker
  rw [same, Trace.polls_append, Trace.polls_map_noted]
  rfl

@[simp] theorem taken_attemptTrace : (attemptTrace daemon settings event worker).taken = [] := by
  obtain ⟨notices, same⟩ := attemptTrace_eq daemon settings event worker
  rw [same, Trace.taken_append, Trace.taken_map_noted]
  rfl

/-! ### The four ways on from it -/

section

variable {daemon settings event worker} (rest : List Event) (sent rejected : Nat)

theorem sendInOrder_of_panic {panic : Panic}
    (answer : (reaction daemon settings event worker).answer = .error panic) :
    sendInOrder daemon settings (event :: rest) sent rejected worker
      = ⟨.error panic, attemptTrace daemon settings event worker,
          called daemon settings event worker⟩ := by
  unfold reaction at answer
  simp only [sendInOrder, answer]
  rfl

theorem sendInOrder_of_accepted
    (answer : (reaction daemon settings event worker).answer = .ok (.ok ())) :
    sendInOrder daemon settings (event :: rest) sent rejected worker
      = (sendInOrder daemon settings rest (sent + 1) rejected
          ((called daemon settings event worker).credit 1 0 0)).after
          (attemptTrace daemon settings event worker ++ [.noted (.sent event.hookType)]) := by
  rw [credit_sent]
  unfold reaction at answer
  simp only [sendInOrder, answer]
  rfl

theorem sendInOrder_of_unavailable {status : Status}
    (answer : (reaction daemon settings event worker).answer = .ok (.error status))
    (transient : status.isTransient = true) :
    sendInOrder daemon settings (event :: rest) sent rejected worker
      = ⟨.ok (.deferred sent rejected (event :: rest).length),
          attemptTrace daemon settings event worker
            ++ [.noted (.deferred event.hookType (event :: rest).length
              (reaction daemon settings event worker).context.detail status.message)],
          ((called daemon settings event worker).giveBack (event :: rest)).credit 0 0
            (event :: rest).length⟩ := by
  rw [credit_requeued]
  unfold reaction at answer
  simp only [sendInOrder, answer, transient, if_true]
  rfl

theorem sendInOrder_of_rejected {status : Status}
    (answer : (reaction daemon settings event worker).answer = .ok (.error status))
    (final : status.isTransient = false) :
    sendInOrder daemon settings (event :: rest) sent rejected worker
      = (sendInOrder daemon settings rest sent (rejected + 1)
          ((called daemon settings event worker).credit 0 1 0)).after
          (attemptTrace daemon settings event worker
            ++ [.noted (.rejected event.hookType
              (reaction daemon settings event worker).context.detail status)]) := by
  rw [credit_rejected]
  unfold reaction at answer
  simp only [sendInOrder, answer, final, Bool.false_eq_true, if_false]
  rfl

end

end Worker

/-! ## What sending a batch does -/

/-- How the sending of a batch ends: every event is settled, or the call for an event ends it and
others are left behind that event. -/
inductive Finish where
  | drained
  | deferred (last : Attempt) (left : List Event)
  | broken (last : Attempt) (panic : Panic) (left : List Event)

namespace Finish

/-- The call that ended it, if one did. -/
def attempts : Finish → List Attempt
  | drained => []
  | deferred last _ | broken last _ _ => [last]

/-- The events that are not settled. -/
def unsettled : Finish → List Event
  | drained => []
  | deferred last left | broken last _ left => last.event :: left

/-- The events that go back to the queue. -/
def returned : Finish → List Event
  | drained | broken _ _ _ => []
  | deferred last left => last.event :: left

/-- The events that are neither settled nor go back. -/
def lost : Finish → List Event
  | drained | deferred _ _ => []
  | broken last _ left => last.event :: left

/-- What a pass comes to that ends so, after so many events were sent and rejected. -/
def outcome (sent rejected : Nat) : Finish → Except Panic PassOutcome
  | drained => .ok (.drained sent rejected)
  | deferred last left => .ok (.deferred sent rejected (last.event :: left).length)
  | broken _ panic _ => .error panic

/-- What is not settled goes back or is lost. -/
theorem unsettled_eq (finish : Finish) : finish.unsettled = finish.returned ++ finish.lost := by
  cases finish with
  | drained => rfl
  | deferred last left => exact (List.append_nil _).symm
  | broken last panic left => rfl

/-- The call that ended it has the answer for that. -/
def Sound : Finish → Prop
  | drained => True
  | deferred last _ => last.verdict = .unavailable
  | broken last panic _ => last.answer = .error panic

/-- The call that ended it has not settled its event. -/
theorem Sound.settles {finish : Finish} (sound : finish.Sound) {attempt : Attempt}
    (member : attempt ∈ finish.attempts) : attempt.verdict.settles = false := by
  cases finish with
  | drained => cases member
  | deferred last left =>
    rw [List.mem_singleton.mp member, sound]
    rfl
  | broken last panic left =>
    rw [List.mem_singleton.mp member, Attempt.verdict_eq_panicked_iff.mpr ⟨panic, sound⟩]
    rfl

end Finish

namespace Worker

variable {σ : Type} (daemon : Daemon σ) (settings : DeliverySettings)

/-- What sending a batch does: the events in `done` are settled, and then it ends with `finish`.
The daemon is called for no other events, and the worker is the one after these calls, but for what
is returned to its queue and credited to its totals. -/
structure Sent (batch : List Event) (sent rejected : Nat) (worker : Worker σ)
    (progress : Progress σ PassOutcome) (done : List Attempt) (finish : Finish) : Prop where
  batch_eq : batch = done.map Attempt.event ++ finish.unsettled
  settled : ∀ attempt ∈ done, attempt.verdict.settles = true
  sound : finish.Sound
  outcome_eq : progress.outcome = finish.outcome
    (sent + (Attempts.withVerdict .accepted done).length)
    (rejected + (Attempts.withVerdict .rejected done).length)
  attempts_eq : progress.trace.attempts = done ++ finish.attempts
  arrived_eq : progress.trace.arrived = Attempts.arrived (done ++ finish.attempts)
  polls_eq : progress.trace.polls = []
  taken_eq : progress.trace.taken = []
  exchange_eq : (exchange daemon settings ((done ++ finish.attempts).map Attempt.event) worker).1
    = done ++ finish.attempts
  worker_eq : progress.worker =
    ((exchange daemon settings ((done ++ finish.attempts).map Attempt.event) worker).2.giveBack
      finish.returned).credit (Attempts.withVerdict .accepted done).length
        (Attempts.withVerdict .rejected done).length finish.returned.length

variable {daemon settings}

/-- An event that is settled before the others are sent. -/
theorem Sent.cons (one other : Nat) {event : Event} {rest : List Event} {sent rejected : Nat}
    {worker : Worker σ} {progress : Progress σ PassOutcome} {done : List Attempt} {finish : Finish}
    {notice : Notice}
    (settles : (attempt daemon settings event worker).verdict.settles = true)
    (accepted :
      (Attempts.withVerdict .accepted [attempt daemon settings event worker]).length = one)
    (refused :
      (Attempts.withVerdict .rejected [attempt daemon settings event worker]).length = other)
    (later : Sent daemon settings rest (sent + one) (rejected + other)
      ((called daemon settings event worker).credit one other 0) progress done finish) :
    Sent daemon settings (event :: rest) sent rejected worker
      (progress.after (attemptTrace daemon settings event worker ++ [.noted notice]))
      (attempt daemon settings event worker :: done) finish where
  batch_eq := by rw [later.batch_eq]; rfl
  settled := List.forall_mem_cons.mpr ⟨settles, later.settled⟩
  sound := later.sound
  outcome_eq := by
    rw [Attempts.length_withVerdict_cons accepted, Attempts.length_withVerdict_cons refused,
      ← Nat.add_assoc, ← Nat.add_assoc]
    exact later.outcome_eq
  attempts_eq := by
    simp only [Progress.after, Trace.attempts_append, attempts_attemptTrace, later.attempts_eq]
    rfl
  arrived_eq := by
    simp only [Progress.after, Trace.arrived_append, arrived_attemptTrace, later.arrived_eq]
    simp [Trace.arrived, Occurrence.arrived]
  polls_eq := by
    simp only [Progress.after, Trace.polls_append, polls_attemptTrace, later.polls_eq]
    rfl
  taken_eq := by
    simp only [Progress.after, Trace.taken_append, taken_attemptTrace, later.taken_eq]
    rfl
  exchange_eq := by
    have exchanged := later.exchange_eq
    rw [exchange_credit] at exchanged
    exact congrArg (attempt daemon settings event worker :: ·) exchanged
  worker_eq := by
    have after := later.worker_eq
    rw [exchange_credit] at after
    rw [Attempts.length_withVerdict_cons accepted, Attempts.length_withVerdict_cons refused,
      ← credit_credit]
    exact after

/-- The call for an event that ends the sending. -/
theorem Sent.last (sent rejected : Nat) (finish : Finish) (notices : List Notice) {event : Event}
    {rest : List Event} {worker : Worker σ}
    (attempts : finish.attempts = [attempt daemon settings event worker])
    (unsettled : finish.unsettled = event :: rest) (sound : finish.Sound) :
    Sent daemon settings (event :: rest) sent rejected worker
      ⟨finish.outcome sent rejected,
        attemptTrace daemon settings event worker ++ notices.map .noted,
        ((called daemon settings event worker).giveBack finish.returned).credit 0 0
          finish.returned.length⟩
      [] finish where
  batch_eq := unsettled.symm
  settled := fun attempt member => absurd member List.not_mem_nil
  sound := sound
  outcome_eq := rfl
  attempts_eq := by
    rw [Trace.attempts_append, attempts_attemptTrace, Trace.attempts_map_noted, attempts]
    rfl
  arrived_eq := by
    rw [Trace.arrived_append, arrived_attemptTrace, Trace.arrived_map_noted, attempts]
    rfl
  polls_eq := by rw [Trace.polls_append, polls_attemptTrace, Trace.polls_map_noted]; rfl
  taken_eq := by rw [Trace.taken_append, taken_attemptTrace, Trace.taken_map_noted]; rfl
  exchange_eq := by rw [attempts]; rfl
  worker_eq := by rw [attempts]; rfl

/-- **The calls for a batch, and where they end.** -/
theorem exists_sent (daemon : Daemon σ) (settings : DeliverySettings) (batch : List Event)
    (sent rejected : Nat) (worker : Worker σ) :
    ∃ done finish, Sent daemon settings batch sent rejected worker
      (sendInOrder daemon settings batch sent rejected worker) done finish := by
  induction batch generalizing sent rejected worker with
  | nil =>
    refine ⟨[], .drained, ⟨rfl, ?_, trivial, rfl, rfl, rfl, rfl, rfl, rfl, ?_⟩⟩
    · exact fun attempt member => absurd member List.not_mem_nil
    · exact ((credit_zero _).trans (giveBack_nil _)).symm
  | cons event rest ih =>
    have verdict : (attempt daemon settings event worker).verdict
        = .ofAnswer (reaction daemon settings event worker).answer := rfl
    cases answer : (reaction daemon settings event worker).answer with
    | error panic =>
      rw [sendInOrder_of_panic rest sent rejected answer]
      have last := Sent.last sent rejected
        (.broken (attempt daemon settings event worker) panic rest) [] rfl rfl answer
      rw [Finish.returned, giveBack_nil, List.length_nil, credit_zero, List.map_nil,
        List.append_nil] at last
      exact ⟨[], _, last⟩
    | ok result =>
      cases result with
      | ok =>
        rw [sendInOrder_of_accepted rest sent rejected answer]
        obtain ⟨done, finish, later⟩ := ih (sent + 1) rejected
          ((called daemon settings event worker).credit 1 0 0)
        rw [answer] at verdict
        refine ⟨_, finish, Sent.cons 1 0 ?_ ?_ ?_ later⟩
        all_goals simp [verdict, Verdict.ofAnswer, Verdict.settles]
      | error status =>
        cases transient : status.isTransient with
        | false =>
          rw [sendInOrder_of_rejected rest sent rejected answer transient]
          obtain ⟨done, finish, later⟩ := ih sent (rejected + 1)
            ((called daemon settings event worker).credit 0 1 0)
          rw [answer] at verdict
          refine ⟨_, finish, Sent.cons 0 1 ?_ ?_ ?_ later⟩
          all_goals simp [verdict, Verdict.ofAnswer, Verdict.settles, transient]
        | true =>
          rw [sendInOrder_of_unavailable rest sent rejected answer transient]
          have unavailable : (attempt daemon settings event worker).verdict = .unavailable := by
            rw [verdict, answer, Verdict.ofAnswer, transient, if_pos rfl]
          exact ⟨[], .deferred (attempt daemon settings event worker) rest,
            Sent.last sent rejected (.deferred _ _) [_] rfl rfl unavailable⟩

/-! ## The worker after a batch -/

section

variable {batch : List Event} {sent rejected : Nat} {worker : Worker σ}
  {progress : Progress σ PassOutcome} {done : List Attempt} {finish : Finish}

/-- What is waiting after a batch: what arrived during its calls, and what was returned. -/
theorem Sent.queue_eq
    (sent : Sent daemon settings batch sent rejected worker progress done finish) :
    progress.worker.queue.toList
      = worker.queue.toList ++ Attempts.arrived progress.trace.attempts ++ finish.returned := by
  have later := toList_exchange daemon settings
    ((done ++ finish.attempts).map Attempt.event) worker
  rw [sent.exchange_eq] at later
  rw [sent.worker_eq, sent.attempts_eq]
  exact congrArg (· ++ finish.returned) later

/-- The totals after a batch. -/
theorem Sent.stats_eq
    (sent : Sent daemon settings batch sent rejected worker progress done finish) :
    progress.worker.stats = worker.stats.credit (Attempts.withVerdict .accepted done).length
      (Attempts.withVerdict .rejected done).length finish.returned.length := by
  rw [sent.worker_eq]
  exact congrArg (DeliveryStats.credit · _ _ _) (stats_exchange daemon settings _ worker)

/-- The request to stop after a batch. -/
theorem Sent.stop_eq
    (sent : Sent daemon settings batch sent rejected worker progress done finish) :
    progress.worker.stop
      = (progress.trace.attempts.map Attempt.meanwhile).foldl Meanwhile.stopAfter worker.stop := by
  have later := stop_exchange daemon settings
    ((done ++ finish.attempts).map Attempt.event) worker
  rw [sent.exchange_eq] at later
  rw [sent.worker_eq, sent.attempts_eq]
  exact later

/-- How many have arrived after a batch. -/
theorem Sent.arrivals_eq
    (sent : Sent daemon settings batch sent rejected worker progress done finish) :
    progress.worker.arrivals
      = worker.arrivals + (Attempts.arrived progress.trace.attempts).length := by
  have later := arrivals_exchange daemon settings
    ((done ++ finish.attempts).map Attempt.event) worker
  rw [sent.exchange_eq] at later
  rw [sent.worker_eq, sent.attempts_eq]
  exact later

/-- What arrived during the calls for a batch is numbered from the earlier arrivals on. -/
theorem Sent.consecutive
    (sent : Sent daemon settings batch sent rejected worker progress done finish) :
    Event.Consecutive worker.arrivals (Attempts.arrived progress.trace.attempts) := by
  have later := consecutive_exchange daemon settings
    ((done ++ finish.attempts).map Attempt.event) worker
  rw [sent.exchange_eq] at later
  rw [sent.attempts_eq]
  exact later

/-- The calls for a batch are those of an exchange that ends where the worker does. -/
theorem Sent.exchanged
    (sent : Sent daemon settings batch sent rejected worker progress done finish) :
    ∃ after, exchange daemon settings (progress.trace.attempts.map Attempt.event) worker
        = (progress.trace.attempts, after)
      ∧ progress.worker.daemon = after.daemon := by
  refine ⟨(exchange daemon settings ((done ++ finish.attempts).map Attempt.event) worker).2, ?_, ?_⟩
  · rw [sent.attempts_eq]
    exact Prod.ext sent.exchange_eq rfl
  · rw [sent.worker_eq]
    rfl

end

end Worker

end JobHooks
