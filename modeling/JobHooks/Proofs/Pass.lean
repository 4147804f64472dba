import JobHooks.Proofs.Sending

/-!
# What one pass does

A pass that is not stopped polls the daemon.  What arrives during the poll lines up behind what is
waiting, and if the daemon can be reached, everything that is waiting then is taken and sent as one
batch.

`Worker.Course` lists the five ways through a pass, and `Worker.course_of_pass` says that there are
no others.  `Worker.pass_spec` says for a daemon that never panics what the pass comes to, which
calls it makes, and what it leaves in the queue.
-/

namespace JobHooks

set_option autoImplicit false

namespace Worker

variable {σ : Type} (daemon : Daemon σ) (settings : DeliverySettings)

/-! ## The five ways through a pass -/

/-- What comes of asking the daemon whether it can be reached. -/
def polling (worker : Worker σ) : Reaction σ Bool :=
  daemon.poll worker.monitor.timeout worker.daemon

/-- The worker when the poll has been answered. -/
def polled (worker : Worker σ) : Worker σ :=
  worker.absorb (polling daemon worker).effects (polling daemon worker).next

/-- What the poll leaves in the trace, with what is reported of its answer. -/
def pollTrace (reported : List Notice) (worker : Worker σ) : Trace :=
  (polling daemon worker).notices.map .noted
    ++ .polled worker.monitor.timeout (worker.meanwhile (polling daemon worker).effects)
        (polling daemon worker).answer
      :: reported.map .noted

/-- The whole of a pass that goes on after its poll and sends what is waiting then. -/
def goOn (worker : Worker σ) (progress : Progress σ PassOutcome) : Progress σ PassOutcome :=
  (progress.after [.taken (polled daemon worker).queue.toList,
      .noted (.dequeued (polled daemon worker).queue.toList.length)]).after
    (pollTrace daemon ((polled daemon worker).monitor.notices true) worker)

/-- The worker that has taken note of the answer to its poll. -/
def observed (connected : Bool) (worker : Worker σ) : Worker σ :=
  { worker with monitor := (worker.monitor.observe connected).2 }

/-- The worker that has taken everything that was waiting. -/
def emptied (worker : Worker σ) : Worker σ :=
  { worker with
    queue := { worker.queue with waiting := [] }
    stats := { worker.stats with
      dequeued := worker.stats.dequeued + UInt64.ofNat worker.queue.toList.length } }

variable {daemon settings} {worker : Worker σ}

/-- What is reported of an answer stands behind the poll. -/
theorem pollTrace_append (reported : List Notice) :
    pollTrace daemon [] worker ++ reported.map .noted = pollTrace daemon reported worker := by
  simp only [pollTrace, List.map_nil, List.append_assoc, List.singleton_append]

@[simp] theorem attempts_pollTrace (reported : List Notice) :
    (pollTrace daemon reported worker).attempts = [] := by
  rw [pollTrace, Trace.attempts_append, Trace.attempts_map_noted]
  exact Trace.attempts_map_noted reported

@[simp] theorem taken_pollTrace (reported : List Notice) :
    (pollTrace daemon reported worker).taken = [] := by
  rw [pollTrace, Trace.taken_append, Trace.taken_map_noted]
  exact Trace.taken_map_noted reported

@[simp] theorem polls_pollTrace (reported : List Notice) :
    (pollTrace daemon reported worker).polls = [worker.monitor.timeout] := by
  rw [pollTrace, Trace.polls_append, Trace.polls_map_noted]
  exact congrArg (worker.monitor.timeout :: ·) (Trace.polls_map_noted reported)

@[simp] theorem arrived_pollTrace (reported : List Notice) :
    (pollTrace daemon reported worker).arrived
      = (worker.meanwhile (polling daemon worker).effects).arrived := by
  have rest : Trace.arrived (reported.map .noted) = [] := Trace.arrived_map_noted reported
  rw [pollTrace, Trace.arrived_append, Trace.arrived_map_noted, List.nil_append]
  exact (congrArg (_ ++ ·) rest).trans (List.append_nil _)

section

variable (progress : Progress σ PassOutcome)

@[simp] theorem attempts_goOn :
    (goOn daemon worker progress).trace.attempts = progress.trace.attempts := by
  simp only [goOn, Progress.after, Trace.attempts_append, attempts_pollTrace]
  rfl

@[simp] theorem taken_goOn :
    (goOn daemon worker progress).trace.taken
      = (polled daemon worker).queue.toList ++ progress.trace.taken := by
  simp only [goOn, Progress.after, Trace.taken_append, taken_pollTrace]
  exact congrArg (· ++ progress.trace.taken) (List.append_nil _)

@[simp] theorem polls_goOn :
    (goOn daemon worker progress).trace.polls
      = worker.monitor.timeout :: progress.trace.polls := by
  simp only [goOn, Progress.after, Trace.polls_append, polls_pollTrace]
  rfl

@[simp] theorem arrived_goOn :
    (goOn daemon worker progress).trace.arrived
      = (worker.meanwhile (polling daemon worker).effects).arrived
        ++ progress.trace.arrived := by
  simp only [goOn, Progress.after, Trace.arrived_append, arrived_pollTrace]
  rfl

end

theorem drain_of_nothing (nothing : worker.queue.toList = []) :
    drain daemon settings worker = ⟨.ok .idle, [], worker⟩ := by
  have none : worker.pending = 0 := List.length_eq_zero_iff.mpr nothing
  rw [drain, if_pos none]

theorem drain_of_waiting (waiting : worker.queue.toList ≠ []) :
    drain daemon settings worker
      = (sendInOrder daemon settings worker.queue.toList 0 0 worker.emptied).after
          [.taken worker.queue.toList, .noted (.dequeued worker.queue.toList.length)] := by
  have some : worker.pending ≠ 0 := fun none => waiting (List.length_eq_zero_iff.mp none)
  have all : worker.queue.dequeueUpTo worker.pending
      = (worker.queue.toList, { worker.queue with waiting := [] }) := by
    simp only [Queue.dequeueUpTo, pending, Queue.size, List.take_length, List.drop_length]
    rfl
  rw [drain, if_neg some, all]
  rfl

theorem pass_of_stop (stop : worker.stop = true) :
    pass daemon settings worker = ⟨.ok .stopped, [], worker⟩ := by
  rw [pass, if_pos stop]

/-- A worker that has not been asked to stop begins its pass with the poll. -/
theorem pass_of_going (going : worker.stop = false) :
    pass daemon settings worker = poll daemon settings worker := by
  rw [pass, going]
  exact if_neg Bool.false_ne_true

theorem poll_of_panic {panic : Panic} (answer : (polling daemon worker).answer = .error panic) :
    poll daemon settings worker
      = ⟨.error panic, pollTrace daemon [] worker, polled daemon worker⟩ := by
  unfold polling at answer
  simp only [poll, answer]
  simp only [pollTrace, polling, answer]
  rfl

theorem poll_of_answer {connected : Bool}
    (answer : (polling daemon worker).answer = .ok connected) :
    poll daemon settings worker
      = (resume daemon settings connected (polled daemon worker)).after
          (pollTrace daemon [] worker) := by
  unfold polling at answer
  simp only [poll, answer]
  simp only [pollTrace, polling, answer]
  rfl

theorem pass_of_panic {panic : Panic} (going : worker.stop = false)
    (answer : (polling daemon worker).answer = .error panic) :
    pass daemon settings worker
      = ⟨.error panic, pollTrace daemon [] worker, polled daemon worker⟩ := by
  rw [pass_of_going going, poll_of_panic answer]

theorem pass_of_disconnected (going : worker.stop = false)
    (answer : (polling daemon worker).answer = .ok false) :
    pass daemon settings worker
      = ⟨.ok .disconnected,
          pollTrace daemon ((polled daemon worker).monitor.notices false) worker,
          (polled daemon worker).observed false⟩ := by
  rw [pass_of_going going, poll_of_answer answer,
    ← pollTrace_append ((polled daemon worker).monitor.notices false)]
  rfl

theorem pass_of_connected (going : worker.stop = false)
    (answer : (polling daemon worker).answer = .ok true) :
    pass daemon settings worker
      = (drain daemon settings ((polled daemon worker).observed true)).after
          (pollTrace daemon ((polled daemon worker).monitor.notices true) worker) := by
  rw [pass_of_going going, poll_of_answer answer, resume, if_pos rfl,
    ← pollTrace_append ((polled daemon worker).monitor.notices true)]
  simp only [Progress.after, List.append_assoc]
  rfl

theorem pass_of_idle (going : worker.stop = false)
    (answer : (polling daemon worker).answer = .ok true)
    (nothing : (polled daemon worker).queue.toList = []) :
    pass daemon settings worker
      = ⟨.ok .idle, pollTrace daemon ((polled daemon worker).monitor.notices true) worker,
          (polled daemon worker).observed true⟩ := by
  have left : ((polled daemon worker).observed true).queue.toList = [] := nothing
  rw [pass_of_connected going answer, drain_of_nothing left, Progress.after, List.append_nil]

theorem pass_of_waiting (going : worker.stop = false)
    (answer : (polling daemon worker).answer = .ok true)
    (waiting : (polled daemon worker).queue.toList ≠ []) :
    pass daemon settings worker
      = goOn daemon worker (sendInOrder daemon settings (polled daemon worker).queue.toList 0 0
          ((polled daemon worker).observed true).emptied) := by
  have batch : ((polled daemon worker).observed true).queue.toList ≠ [] := waiting
  rw [pass_of_connected going answer, drain_of_waiting batch]
  rfl

variable (daemon settings worker) in
/-- The five ways through a pass, with everything that comes of them. -/
inductive Course : Progress σ PassOutcome → Prop where
  | stopped (stop : worker.stop = true) : Course ⟨.ok .stopped, [], worker⟩
  | panicked {panic : Panic} (going : worker.stop = false)
      (answer : (polling daemon worker).answer = .error panic) :
      Course ⟨.error panic, pollTrace daemon [] worker, polled daemon worker⟩
  | disconnected (going : worker.stop = false)
      (answer : (polling daemon worker).answer = .ok false) :
      Course ⟨.ok .disconnected,
        pollTrace daemon ((polled daemon worker).monitor.notices false) worker,
        (polled daemon worker).observed false⟩
  | idle (going : worker.stop = false) (answer : (polling daemon worker).answer = .ok true)
      (nothing : (polled daemon worker).queue.toList = []) :
      Course ⟨.ok .idle, pollTrace daemon ((polled daemon worker).monitor.notices true) worker,
        (polled daemon worker).observed true⟩
  | sent (going : worker.stop = false) (answer : (polling daemon worker).answer = .ok true)
      (waiting : (polled daemon worker).queue.toList ≠ []) {progress : Progress σ PassOutcome}
      {done : List Attempt} {finish : Finish}
      (sent : Sent daemon settings (polled daemon worker).queue.toList 0 0
        ((polled daemon worker).observed true).emptied progress done finish) :
      Course (goOn daemon worker progress)

/-- **A pass takes one of the five ways.** -/
theorem course_of_pass (daemon : Daemon σ) (settings : DeliverySettings) (worker : Worker σ) :
    Course daemon settings worker (pass daemon settings worker) := by
  cases stop : worker.stop with
  | true =>
    rw [pass_of_stop stop]
    exact .stopped stop
  | false =>
    cases answer : (polling daemon worker).answer with
    | error panic =>
      rw [pass_of_panic stop answer]
      exact .panicked stop answer
    | ok connected =>
      cases connected with
      | false =>
        rw [pass_of_disconnected stop answer]
        exact .disconnected stop answer
      | true =>
        by_cases nothing : (polled daemon worker).queue.toList = []
        · rw [pass_of_idle stop answer nothing]
          exact .idle stop answer nothing
        · rw [pass_of_waiting stop answer nothing]
          obtain ⟨done, finish, sent⟩ := exists_sent daemon settings
            (polled daemon worker).queue.toList 0 0 ((polled daemon worker).observed true).emptied
          exact .sent stop answer nothing sent

/-- A pass that is not stopped polls once. -/
theorem Course.polls_eq {progress : Progress σ PassOutcome}
    (course : Course daemon settings worker progress) (going : worker.stop = false) :
    progress.trace.polls = [worker.monitor.timeout] := by
  cases course with
  | stopped stop => exact absurd (going.symm.trans stop) Bool.false_ne_true
  | panicked => exact polls_pollTrace _
  | disconnected => exact polls_pollTrace _
  | idle => exact polls_pollTrace _
  | sent _ _ _ sent => rw [polls_goOn, sent.polls_eq]

/-- What the poll and the calls of a pass make of the request to stop. -/
theorem Course.stop_eq {progress : Progress σ PassOutcome}
    (course : Course daemon settings worker progress) (going : worker.stop = false) :
    progress.worker.stop
      = (worker.meanwhile (polling daemon worker).effects
          :: progress.trace.attempts.map Attempt.meanwhile).foldl Meanwhile.stopAfter
            worker.stop := by
  cases course with
  | stopped stop => exact absurd (going.symm.trans stop) Bool.false_ne_true
  | panicked => rw [attempts_pollTrace]; rfl
  | disconnected => rw [attempts_pollTrace]; rfl
  | idle => rw [attempts_pollTrace]; rfl
  | sent _ _ _ sent =>
    rw [attempts_goOn]
    exact sent.stop_eq

end Worker

/-! ## What a pass comes to -/

/-- A daemon that answers every poll and every call, whatever the answer is. -/
structure Daemon.NeverPanics {σ : Type} (daemon : Daemon σ) : Prop where
  poll : ∀ timeout state, ∃ connected, (daemon.poll timeout state).answer = .ok connected
  call : ∀ context payload state, ∃ result,
    (daemon.dispatch context payload state).reaction.answer = .ok result

/-- A daemon with one way of answering for all kinds of hooks. -/
def Daemon.uniform {σ : Type} (poll : σ → Reaction σ Bool)
    (call : Payload → σ → Reaction σ (Except Status Unit)) : Daemon σ where
  poll := fun _ state => poll state
  startHook := fun context jobs state => { call (.start jobs) state with context }
  finishHook := fun context jobs state => { call (.finish jobs) state with context }
  monitorHook := fun context target state => { call (.monitor target) state with context }

theorem Daemon.reaction_uniform {σ : Type} (poll : σ → Reaction σ Bool)
    (call : Payload → σ → Reaction σ (Except Status Unit)) (context : CallContext)
    (payload : Payload) (state : σ) :
    ((uniform poll call).dispatch context payload state).reaction
      = { call payload state with context } := by
  cases payload <;> rfl

namespace Worker

variable {σ : Type} {daemon : Daemon σ} {settings : DeliverySettings} {worker : Worker σ}
  {batch : List Event} {progress : Progress σ PassOutcome} {done : List Attempt} {finish : Finish}

/-- The calls for a batch are the first ones of its exchange. -/
theorem Sent.attempts_prefix (sent : Sent daemon settings batch 0 0 worker progress done finish) :
    progress.trace.attempts <+: (exchange daemon settings batch worker).1 := by
  have whole : batch = (done ++ finish.attempts).map Attempt.event
      ++ finish.unsettled.drop finish.attempts.length := by
    rw [sent.batch_eq]
    cases finish <;> simp [Finish.unsettled, Finish.attempts]
  rw [sent.attempts_eq, ← sent.exchange_eq]
  conv_rhs => rw [whole, exchange_append]
  rw [sent.exchange_eq]
  exact List.prefix_append _ _

/-- No call for a batch panics where the daemon never does. -/
theorem Sent.drained_or_deferred (calm : daemon.NeverPanics)
    (sent : Sent daemon settings batch 0 0 worker progress done finish) :
    finish = .drained ∨ ∃ last left, finish = .deferred last left := by
  cases finish with
  | drained => exact .inl rfl
  | deferred last left => exact .inr ⟨last, left, rfl⟩
  | broken last panic left =>
    have member : last ∈ progress.trace.attempts := by
      rw [sent.attempts_eq]
      exact List.mem_append_right _ (List.mem_singleton.mpr rfl)
    obtain ⟨state, given⟩ := answer_of_mem_exchange (sent.attempts_prefix.subset member)
    obtain ⟨result, answer⟩ := calm.call (.fresh settings.rpcTimeout) last.event.payload state
    exact absurd (sent.sound.symm.trans (given.trans answer)) (by simp)

/-- A batch in which the daemon can be reached for every event. -/
theorem Sent.of_drained (sent : Sent daemon settings batch 0 0 worker progress done .drained) :
    let attempts := progress.trace.attempts
    let accepted := (Attempts.withVerdict .accepted attempts).length
    let rejected := (Attempts.withVerdict .rejected attempts).length
    attempts.length = batch.length
      ∧ (∀ attempt ∈ attempts, attempt.verdict ≠ .unavailable)
      ∧ progress.outcome = .ok (.drained accepted rejected)
      ∧ accepted + rejected = batch.length
      ∧ progress.worker.queue.toList = worker.queue.toList ++ Attempts.arrived attempts
      ∧ progress.worker.stats = worker.stats.credit accepted rejected 0 := by
  have attempts : progress.trace.attempts = done :=
    sent.attempts_eq.trans (List.append_nil _)
  have length : done.length = batch.length := by
    rw [sent.batch_eq, Finish.unsettled, List.append_nil, List.length_map]
  have outcome := sent.outcome_eq
  have queue := sent.queue_eq
  rw [Nat.zero_add, Nat.zero_add] at outcome
  rw [Finish.returned, List.append_nil] at queue
  simp only [attempts] at queue ⊢
  refine ⟨length, ?_, outcome, ?_, queue, sent.stats_eq⟩
  · exact fun attempt member => Verdict.ne_of_settles (sent.settled attempt member) rfl
  · rw [Attempts.length_withVerdict_add sent.settled, length]

/-- A batch in which an event finds the daemon unreachable. -/
theorem Sent.of_deferred {last : Attempt} {left : List Event}
    (sent : Sent daemon settings batch 0 0 worker progress done (.deferred last left)) :
    let attempts := progress.trace.attempts
    let accepted := (Attempts.withVerdict .accepted attempts).length
    let rejected := (Attempts.withVerdict .rejected attempts).length
    ∃ k < batch.length, attempts.length = k + 1
      ∧ (∀ index attempt, attempts[index]? = some attempt →
          (attempt.verdict = .unavailable ↔ index = k))
      ∧ progress.outcome = .ok (.deferred accepted rejected (batch.length - k))
      ∧ accepted + rejected = k
      ∧ progress.worker.queue.toList
          = worker.queue.toList ++ Attempts.arrived attempts ++ batch.drop k
      ∧ progress.worker.stats = worker.stats.credit accepted rejected (batch.length - k) := by
  have attempts : progress.trace.attempts = done ++ [last] := sent.attempts_eq
  have unavailable : last.verdict = .unavailable := sent.sound
  have none : ∀ verdict : Verdict, verdict.settles = true →
      Attempts.withVerdict verdict progress.trace.attempts = Attempts.withVerdict verdict done := by
    intro verdict settles
    have left : ∀ attempt ∈ [last], attempt.verdict.settles = false :=
      fun _ => Finish.Sound.settles sent.sound
    rw [attempts, Attempts.withVerdict_append, Attempts.withVerdict_eq_nil settles left,
      List.append_nil]
  have batch_eq : batch = done.map Attempt.event ++ last.event :: left := sent.batch_eq
  have rest : batch.drop done.length = last.event :: left := by
    rw [batch_eq, List.drop_append_of_le_length (by simp), List.drop_of_length_le (by simp),
      List.nil_append]
  have returned : batch.length - done.length = (last.event :: left).length := by
    rw [← rest, List.length_drop]
  have outcome := sent.outcome_eq
  have queue := sent.queue_eq
  have stats := sent.stats_eq
  rw [Nat.zero_add, Nat.zero_add, Finish.outcome, ← returned] at outcome
  rw [Finish.returned] at queue stats
  rw [← rest] at queue
  rw [← returned] at stats
  simp only [none .accepted rfl, none .rejected rfl]
  refine ⟨done.length, ?_, ?_, ?_, outcome, ?_, queue, stats⟩
  · rw [batch_eq, List.length_append, List.length_map]
    exact Nat.lt_add_of_pos_right (Nat.succ_pos _)
  · rw [attempts, List.length_append]
    rfl
  · intro index attempt found
    rw [attempts] at found
    rcases Nat.lt_trichotomy index done.length with before | here | behind
    · rw [List.getElem?_append_left before] at found
      have settles := sent.settled attempt (List.mem_of_getElem? found)
      exact iff_of_false (Verdict.ne_of_settles settles rfl) (Nat.ne_of_lt before)
    · rw [here, List.getElem?_concat_length] at found
      exact iff_of_true (Option.some.inj found ▸ unavailable) here
    · rw [List.getElem?_eq_none (by rw [List.length_append]; exact behind)] at found
      cases found
  · exact Attempts.length_withVerdict_add sent.settled

/-- **The specification of a pass**, for a daemon that never panics and whatever others do while
the worker waits for it.  A worker that was asked to stop does nothing.  Any other polls once; what
waits when the poll has been answered is its batch.  If the daemon cannot be reached or the batch is
empty, the batch is what is waiting in the end.  Otherwise the daemon is called for the batch front
to back, until the batch ends or an event, at place `k`, finds the daemon unreachable. -/
theorem pass_spec (calm : daemon.NeverPanics) (settings : DeliverySettings) (worker : Worker σ) :
    let progress := pass daemon settings worker
    let answer := (polling daemon worker).answer
    let meanwhile := worker.meanwhile (polling daemon worker).effects
    let batch := worker.queue.toList ++ meanwhile.arrived
    let attempts := progress.trace.attempts
    let accepted := (Attempts.withVerdict .accepted attempts).length
    let rejected := (Attempts.withVerdict .rejected attempts).length
    let taken := { worker.stats with
      dequeued := worker.stats.dequeued + UInt64.ofNat batch.length }
    (worker.stop = true → progress = ⟨.ok .stopped, [], worker⟩)
      ∧ (worker.stop = false →
        progress.trace.polls = [worker.monitor.timeout]
          ∧ progress.worker.stop
            = (meanwhile :: attempts.map Attempt.meanwhile).foldl Meanwhile.stopAfter false
          ∧ (answer = .ok false ∨ answer = .ok true)
          ∧ (answer = .ok false → progress.outcome = .ok .disconnected ∧ attempts = []
            ∧ progress.worker.queue.toList = batch ∧ progress.worker.stats = worker.stats)
          ∧ (answer = .ok true → batch = [] → progress.outcome = .ok .idle ∧ attempts = []
            ∧ progress.worker.queue.toList = batch ∧ progress.worker.stats = worker.stats)
          ∧ (answer = .ok true → batch ≠ [] →
            attempts <+: (exchange daemon settings batch (polled daemon worker)).1
              ∧ progress.trace.calls
                = (batch.take attempts.length).map (Event.call settings)
              ∧ (attempts.length = batch.length
                  ∧ (∀ attempt ∈ attempts, attempt.verdict ≠ .unavailable)
                  ∧ progress.outcome = .ok (.drained accepted rejected)
                  ∧ accepted + rejected = batch.length
                  ∧ progress.worker.queue.toList = Attempts.arrived attempts
                  ∧ progress.worker.stats = taken.credit accepted rejected 0
                ∨ ∃ k < batch.length, attempts.length = k + 1
                  ∧ (∀ index attempt, attempts[index]? = some attempt →
                      (attempt.verdict = .unavailable ↔ index = k))
                  ∧ progress.outcome = .ok (.deferred accepted rejected (batch.length - k))
                  ∧ accepted + rejected = k
                  ∧ progress.worker.queue.toList = Attempts.arrived attempts ++ batch.drop k
                  ∧ progress.worker.stats
                    = taken.credit accepted rejected (batch.length - k)))) := by
  intro progress answer meanwhile batch attempts accepted rejected taken
  have course : Course daemon settings worker progress := course_of_pass daemon settings worker
  refine ⟨pass_of_stop, fun going => ⟨course.polls_eq going, going ▸ course.stop_eq going, ?_, ?_,
    ?_, ?_⟩⟩
  · obtain ⟨connected, answered⟩ := calm.poll worker.monitor.timeout worker.daemon
    have answered : answer = .ok connected := answered
    cases connected with
    | false => exact .inl answered
    | true => exact .inr answered
  · intro missed
    have same : progress = _ := pass_of_disconnected going missed
    simp only [attempts, same, attempts_pollTrace, true_and]
    exact ⟨rfl, rfl⟩
  · intro reached nothing
    have same : progress = _ := pass_of_idle going reached nothing
    simp only [attempts, same, attempts_pollTrace, true_and]
    exact ⟨rfl, rfl⟩
  · intro reached waiting
    have same : progress = _ := pass_of_waiting going reached waiting
    obtain ⟨done, finish, sent⟩ := exists_sent daemon settings batch 0 0
      ((polled daemon worker).observed true).emptied
    have calls : attempts = (sendInOrder daemon settings batch 0 0
        ((polled daemon worker).observed true).emptied).trace.attempts := by
      simp only [attempts, same, attempts_goOn]
      rfl
    have first : attempts <+: (exchange daemon settings batch (polled daemon worker)).1 := by
      have whole : (exchange daemon settings batch
            ((polled daemon worker).observed true).emptied).1
          = (exchange daemon settings batch (polled daemon worker)).1 :=
        attempts_exchange_congr batch rfl rfl
      rw [calls, ← whole]
      exact sent.attempts_prefix
    refine ⟨first, map_call_of_prefix first, ?_⟩
    simp only [accepted, rejected, calls, same]
    rcases sent.drained_or_deferred calm with rfl | ⟨last, left, rfl⟩
    · exact .inl sent.of_drained
    · exact .inr sent.of_deferred

/-- A daemon that can be reached for its first call only, while at every call something is handed
over and the worker is asked to stop. -/
def falling : Daemon Nat :=
  .uniform (fun made => { answer := .ok true, next := made }) fun _ made =>
    { answer := .ok (if made = 0 then .ok () else .error ⟨.unavailable, ""⟩)
      effects := { arrivals := [.finish []], stop? := some true }
      next := made + 1 }

theorem falling_neverPanics : falling.NeverPanics where
  poll := fun _ _ => ⟨_, rfl⟩
  call := fun context payload state => by
    rw [falling, Daemon.reaction_uniform]
    exact ⟨_, rfl⟩

/-- Two of three events go back behind those that were handed over meanwhile. -/
theorem pass_spec_falling :
    let worker := (fresh {} 0).enqueue [.start [], .start [], .start []]
    let progress := pass falling {} worker
    falling.NeverPanics ∧ worker.stop = false
      ∧ progress.outcome = .ok (.deferred 1 0 2)
      ∧ progress.worker.queue.toList
        = Attempts.arrived progress.trace.attempts ++ worker.queue.toList.drop 1
      ∧ progress.worker.stop = true := by
  intro worker progress
  obtain ⟨_, stop, _, _, _, sends⟩ := (pass_spec falling_neverPanics {} worker).2 rfl
  obtain ⟨_, _, drained | ⟨k, _, made, _, outcome, _, queue, _⟩⟩ := sends rfl (List.cons_ne_nil _ _)
  · have all : (2 : Nat) = 3 := drained.1
    contradiction
  · have last : k = 1 := (Nat.succ.inj made).symm
    subst last
    exact ⟨falling_neverPanics, rfl, outcome, queue, stop⟩

end Worker

end JobHooks
