import JobHooks.Proofs.OwnEntries
import Mathlib.Data.List.Destutter
import Mathlib.Data.List.SplitBy

/-!
# Changes of the connection

The monitor reports an answer only if it is not the last one again.  Of answers that it takes note
of one after the other it therefore reports their `Monitor.edges`, which are the answers with
repetitions removed, and it remembers the last one (`Monitor.observeAll_fresh`).

A pass that is not stopped polls once, and takes note of the answer once; nothing else in it touches
the monitor or reports a change.  So it is with the answers to all polls in a history and in a run
behind it, however many batches are put off between them (`History.connection_edges`).
-/

namespace JobHooks

set_option autoImplicit false

/-! ## Answers and changes -/

namespace ConnectionState

/-- What is known of the connection after some answers. -/
def after (answers : List Bool) : ConnectionState :=
  match answers.getLast? with
  | none => .unknown
  | some answer => .ofAnswer answer

theorem after_concat (answers : List Bool) (answer : Bool) :
    after (answers ++ [answer]) = .ofAnswer answer := by
  rw [after, List.getLast?_concat]

/-- The state is the one after an answer if that answer was the last one. -/
theorem after_eq_ofAnswer_iff {answers : List Bool} {answer : Bool} :
    after answers = .ofAnswer answer ↔ answers.getLast? = some answer := by
  unfold after
  cases answers.getLast? with
  | none => cases answer <;> decide
  | some last => cases last <;> cases answer <;> decide

/-- Something is known after any answer. -/
theorem after_ne_unknown {answers : List Bool} (some : answers ≠ []) :
    after answers ≠ .unknown := by
  unfold after
  cases found : answers.getLast? with
  | none => exact absurd (List.getLast?_eq_none_iff.mp found) some
  | some last => cases last <;> exact ConnectionState.noConfusion

end ConnectionState

namespace Monitor

/-- Answers with repetitions removed. -/
def edges (answers : List Bool) : List Bool := answers.destutter (· ≠ ·)

/-- An answer is kept behind others if it is not the last one again. -/
theorem edges_concat (answers : List Bool) (answer : Bool) :
    edges (answers ++ [answer])
      = edges answers ++ if answers.getLast? = some answer then [] else [answer] := by
  cases answers with
  | nil => rfl
  | cons first rest =>
    have behind : (rest ++ [answer]).destutter' (· ≠ ·) first = rest.destutter' (· ≠ ·) first
        ++ if (first :: rest).getLast? = some answer then [] else [answer] := by
      induction rest generalizing first with
      | nil => cases first <;> cases answer <;> rfl
      | cons next rest ih =>
        rw [List.cons_append, List.getLast?_cons_cons]
        by_cases other : first ≠ next
        · rw [List.destutter'_cons_pos _ other, List.destutter'_cons_pos _ other, ih next,
            List.cons_append]
        · obtain rfl : first = next := not_not.mp other
          rw [List.destutter'_cons_neg _ other, List.destutter'_cons_neg _ other, ih first]
    exact behind

/-- No two answers that are kept one behind the other are the same. -/
theorem isChain_edges (answers : List Bool) : (edges answers).IsChain (· ≠ ·) :=
  answers.isChain_destutter _

/-- The first answer is kept. -/
theorem head?_edges (answers : List Bool) : (edges answers).head? = answers.head? := by
  cases answers with
  | nil => rfl
  | cons first rest =>
    have front : (rest.destutter' (· ≠ ·) first).head? = some first := by
      induction rest with
      | nil => rfl
      | cons next rest ih =>
        by_cases other : first ≠ next
        · rw [List.destutter'_cons_pos _ other, List.head?_cons]
        · rw [List.destutter'_cons_neg _ other]
          exact ih
    exact front

/-- A run of one answer that is closed adds that answer to the heads. -/
theorem heads_closed {answer : Bool} {run : List Bool} (done : List (List Bool))
    (same : ∀ earlier ∈ run, earlier = answer) :
    ((answer :: run).reverse :: done).reverse.filterMap List.head?
      = done.reverse.filterMap List.head? ++ [answer] := by
  have head : (answer :: run).reverse.head? = some answer := by
    rw [List.head?_reverse, List.getLast?_cons]
    cases last : run.getLast? with
    | none => rfl
    | some earlier => exact congrArg some (same earlier (List.mem_of_getLast? last))
  rw [List.reverse_cons, List.filterMap_append, List.filterMap_cons_some head]
  rfl

/-- The heads of the runs into which answers are split, while a run of one answer is collected. -/
theorem heads_loop (rest : List Bool) {answer : Bool} {run : List Bool} (done : List (List Bool))
    (same : ∀ earlier ∈ run, earlier = answer) :
    (List.splitBy.loop (fun answer next => answer == next) rest answer run done).filterMap
        List.head?
      = done.reverse.filterMap List.head? ++ rest.destutter' (· ≠ ·) answer := by
  induction rest generalizing answer run done with
  | nil => exact heads_closed done same
  | cons next rest ih =>
    rw [List.splitBy.loop]
    cases repeated : answer == next with
    | true =>
      obtain rfl : answer = next := eq_of_beq repeated
      rw [List.destutter'_cons_neg _ (not_not.mpr rfl)]
      exact ih done (List.forall_mem_cons.mpr ⟨rfl, same⟩)
    | false =>
      have nobody : ∀ earlier ∈ [], earlier = next := fun _ member => absurd member List.not_mem_nil
      have later := ih ((answer :: run).reverse :: done) nobody
      rw [heads_closed done same, List.append_assoc] at later
      rw [List.destutter'_cons_pos _ (ne_of_beq_false repeated)]
      exact later

/-- The answers that are kept are the heads of the longest runs of the same answer. -/
theorem edges_eq_heads (answers : List Bool) :
    edges answers
      = (answers.splitBy fun answer next => answer == next).filterMap List.head? := by
  cases answers with
  | nil => rfl
  | cons answer rest =>
    exact (heads_loop rest [] fun _ member => absurd member List.not_mem_nil).symm

/-- So many runs of an answer there are, as often it is kept. -/
theorem count_edges (answers : List Bool) (answer : Bool) :
    (edges answers).count answer
      = (answers.splitBy fun answer next => answer == next).countP (·.head? = some answer) := by
  rw [edges_eq_heads, List.count, List.countP_filterMap]
  refine List.countP_congr fun run _ => ?_
  cases run with
  | nil => simp
  | cons first rest => simp

/-- Changes that are reported are those that answers mean, with repetitions removed.  Therefore they
alternate, the first answer is reported, and so are as many losses of the connection as there are
longest runs of answers that it is lost. -/
structure Compresses (changes : List Transition) (answers : List Bool) : Prop where
  changes_eq : changes = (edges answers).map .ofAnswer
  alternate : changes.IsChain (· ≠ ·)
  head?_eq : changes.head? = answers.head?.map .ofAnswer
  count_disconnected : changes.count .disconnected
    = (answers.splitBy fun answer next => answer == next).countP (·.head? = some false)

theorem compresses_edges (answers : List Bool) :
    Compresses ((edges answers).map .ofAnswer) answers where
  changes_eq := rfl
  alternate := by
    refine List.isChain_map_of_isChain _ ?_ (isChain_edges answers)
    intro answer next other
    cases answer <;> cases next <;> first | exact absurd rfl other | decide
  head?_eq := by rw [List.head?_map, head?_edges]
  count_disconnected := by
    rw [← count_edges, List.count, List.countP_map]
    refine List.countP_congr fun answer _ => ?_
    cases answer <;> decide

/-- Takes note of answers one after the other, and returns the changes that are reported. -/
def observeAll (monitor : Monitor) : List Bool → List Transition × Monitor
  | [] => ([], monitor)
  | answer :: answers =>
    let noted := monitor.observe answer
    let later := noted.2.observeAll answers
    (noted.1.toList ++ later.1, later.2)

/-- The monitor after some answers. -/
def seen (timeout : Nat) (answers : List Bool) : Monitor where
  state := .after answers
  timeout := timeout

/-- A change is reported if the answer is not the last one again. -/
theorem observe_seen (timeout : Nat) (answers : List Bool) (answer : Bool) :
    (seen timeout answers).observe answer
      = (if answers.getLast? = some answer then none else some (.ofAnswer answer),
        seen timeout (answers ++ [answer])) := by
  simp only [observe, seen, ConnectionState.after_eq_ofAnswer_iff, ConnectionState.after_concat]

/-- What is reported of one answer more. -/
theorem map_edges_concat (timeout : Nat) (answers : List Bool) (answer : Bool) :
    (edges (answers ++ [answer])).map Transition.ofAnswer
      = (edges answers).map .ofAnswer
        ++ ((seen timeout answers).observe answer).1.toList := by
  rw [edges_concat, List.map_append, observe_seen]
  by_cases repeated : answers.getLast? = some answer
  · rw [if_pos repeated, if_pos repeated]
    rfl
  · rw [if_neg repeated, if_neg repeated]
    rfl

/-- What is reported of answers that follow others. -/
theorem observeAll_seen (timeout : Nat) (earlier answers : List Bool) :
    ((edges earlier).map Transition.ofAnswer ++ ((seen timeout earlier).observeAll answers).1,
        ((seen timeout earlier).observeAll answers).2)
      = ((edges (earlier ++ answers)).map .ofAnswer, seen timeout (earlier ++ answers)) := by
  induction answers generalizing earlier with
  | nil => rw [observeAll, List.append_nil, List.append_nil]
  | cons answer answers ih =>
    have later := ih (earlier ++ [answer])
    rw [map_edges_concat timeout, List.append_assoc, List.append_assoc] at later
    have next : ((seen timeout earlier).observe answer).2 = seen timeout (earlier ++ [answer]) :=
      congrArg Prod.snd (observe_seen timeout earlier answer)
    simp only [observeAll, next]
    exact later

/-- **What a monitor reports of answers** that it takes note of one after the other: those that are
not the last one again. -/
theorem observeAll_fresh (timeout : Nat) (answers : List Bool) :
    (fresh timeout).observeAll answers
      = ((edges answers).map .ofAnswer, seen timeout answers) :=
  observeAll_seen timeout [] answers

end Monitor

/-- The change of the connection that a notice reports, if it does. -/
def Notice.change? : Notice → Option Transition
  | connected => some .connected
  | notConnected => some .disconnected
  | _ => none

theorem Transition.change?_notice (transition : Transition) :
    transition.notice.change? = some transition := by
  cases transition <;> rfl

namespace Trace

/-- The answers to the polls of a trace, but for a poll that panicked. -/
def answers (trace : Trace) : List Bool :=
  trace.filterMap fun
    | .polled _ _ (.ok connected) => some connected
    | _ => none

/-- The changes of the connection that are reported in a trace. -/
def changes (trace : Trace) : List Transition :=
  trace.filterMap fun
    | .noted notice => notice.change?
    | _ => none

/-- The polls of a trace: how long each might wait, and its answer. -/
def asked (trace : Trace) : List (Nat × Except Panic Bool) :=
  trace.filterMap fun
    | .polled timeout _ answer => some (timeout, answer)
    | _ => none

theorem mem_asked {trace : Trace} {timeout : Nat} {answer : Except Panic Bool} :
    (timeout, answer) ∈ trace.asked ↔ ∃ meanwhile, .polled timeout meanwhile answer ∈ trace := by
  rw [asked, List.mem_filterMap]
  constructor
  · rintro ⟨moment, member, picked⟩
    cases moment with
    | polled =>
      cases picked
      exact ⟨_, member⟩
    | taken | called | noted | paused => cases picked
  · rintro ⟨meanwhile, member⟩
    exact ⟨_, member, rfl⟩

theorem asked_append (earlier later : Trace) :
    asked (earlier ++ later) = asked earlier ++ asked later :=
  List.filterMap_append

theorem answers_append (earlier later : Trace) :
    answers (earlier ++ later) = answers earlier ++ answers later :=
  List.filterMap_append

theorem changes_append (earlier later : Trace) :
    changes (earlier ++ later) = changes earlier ++ changes later :=
  List.filterMap_append

theorem answers_map_noted (notices : List Notice) : answers (notices.map .noted) = [] :=
  filterMap_noted (fun _ => rfl) notices

theorem changes_map_noted (notices : List Notice) :
    changes (notices.map .noted) = notices.filterMap Notice.change? :=
  List.filterMap_map

/-- The losses of the connection that are reported are the warnings that it is lost. -/
theorem count_notConnected (trace : Trace) :
    trace.notices.count .notConnected = trace.changes.count .disconnected := by
  rw [List.count, List.count, notices, changes, List.countP_filterMap, List.countP_filterMap]
  refine List.countP_congr fun moment _ => ?_
  cases moment with
  | noted notice => cases notice <;> simp [Notice.change?]
  | polled | taken | called | paused => rfl

/-- Only polls are answered. -/
theorem answers_of_polls_eq {trace : Trace} (none : trace.polls = []) : trace.answers = [] := by
  rw [polls, List.filterMap_eq_nil_iff] at none
  rw [answers, List.filterMap_eq_nil_iff]
  intro moment member
  have other := none moment member
  cases moment with
  | polled => cases other
  | taken | called | noted | paused => rfl

end Trace

namespace Worker

variable {σ : Type} {daemon : Daemon σ} {settings : DeliverySettings}

/-! ## Passes -/

/-- Calls leave the monitor alone. -/
theorem monitor_exchange (events : List Event) (worker : Worker σ) :
    (exchange daemon settings events worker).2.monitor = worker.monitor := by
  induction events generalizing worker with
  | nil => rfl
  | cons event events ih =>
    rw [exchange]
    exact ih (called daemon settings event worker)

/-- Sending a batch leaves the monitor alone. -/
theorem Sent.monitor_eq {batch : List Event} {sent rejected : Nat} {worker : Worker σ}
    {progress : Progress σ PassOutcome} {done : List Attempt} {finish : Finish}
    (sent : Sent daemon settings batch sent rejected worker progress done finish) :
    progress.worker.monitor = worker.monitor := by
  rw [sent.worker_eq]
  exact monitor_exchange _ worker

/-- The worker itself reports no change of the connection while it sends a batch. -/
theorem changes_sendInOrder (batch : List Event) (sent rejected : Nat) (worker : Worker σ) :
    (sendInOrder daemon.muted settings batch sent rejected worker).trace.changes = [] := by
  have call (event : Event) (worker : Worker σ) :
      (attemptTrace daemon.muted settings event worker).changes = [] := by
    rw [attemptTrace_receive, Daemon.receive_muted]
    rfl
  induction batch generalizing sent rejected worker with
  | nil => rfl
  | cons event rest ih =>
    cases answer : (reaction daemon.muted settings event worker).answer with
    | error panic =>
      rw [sendInOrder_of_panic rest sent rejected answer]
      exact call event worker
    | ok result =>
      cases result with
      | ok =>
        rw [sendInOrder_of_accepted rest sent rejected answer]
        simp only [Progress.after, Trace.changes_append, call, ih]
        rfl
      | error status =>
        cases transient : status.isTransient with
        | false =>
          rw [sendInOrder_of_rejected rest sent rejected answer transient]
          simp only [Progress.after, Trace.changes_append, call, ih]
          rfl
        | true =>
          rw [sendInOrder_of_unavailable rest sent rejected answer transient]
          simp only [Trace.changes_append, call]
          rfl

/-- The answer to a poll stands in the trace, unless the poll panicked. -/
theorem answers_pollTrace (reported : List Notice) (worker : Worker σ) :
    (pollTrace daemon reported worker).answers
      = (polling daemon worker).answer.toOption.toList := by
  have rest : Trace.answers (reported.map .noted) = [] := Trace.answers_map_noted reported
  rw [pollTrace, Trace.answers_append, Trace.answers_map_noted, List.nil_append]
  cases answer : (polling daemon worker).answer with
  | error panic => exact rest
  | ok connected => exact congrArg (connected :: ·) rest

/-- The worker itself reports the change that the answer to a poll means, if any. -/
theorem changes_pollTrace (worker : Worker σ) (connected : Bool) :
    (pollTrace daemon.muted (worker.monitor.notices connected) worker).changes
      = (worker.monitor.observe connected).1.toList := by
  have reported : Trace.changes ((worker.monitor.notices connected).map .noted)
      = (worker.monitor.observe connected).1.toList := by
    rw [Trace.changes_map_noted, Monitor.notices]
    cases (worker.monitor.observe connected).1 with
    | none => rfl
    | some transition => exact List.filterMap_cons_some transition.change?_notice
  exact reported

/-- What a pass does to the monitor, and what it reports of that. -/
structure Watched (before : Monitor) (progress : Progress σ PassOutcome) : Prop where
  monitor_eq : progress.worker.monitor = (before.observeAll progress.trace.answers).2
  changes_eq : progress.trace.changes = (before.observeAll progress.trace.answers).1

/-- A pass whose poll is answered, and in which nothing else has to do with the connection. -/
theorem Watched.of_answer {worker : Worker σ} {progress : Progress σ PassOutcome}
    {connected : Bool} {rest : Trace}
    (answer : (polling daemon.muted worker).answer = .ok connected)
    (whole : progress.trace
      = pollTrace daemon.muted (worker.monitor.notices connected) worker ++ rest)
    (unanswered : rest.answers = []) (unchanged : rest.changes = [])
    (monitor : progress.worker.monitor = (worker.monitor.observe connected).2) :
    Watched worker.monitor progress := by
  have answers : progress.trace.answers = [connected] := by
    rw [whole, Trace.answers_append, answers_pollTrace, answer, unanswered]
    rfl
  refine ⟨?_, ?_⟩
  · rw [answers, monitor]
    rfl
  · rw [answers, whole, Trace.changes_append, changes_pollTrace, unchanged]
    rfl

variable (daemon settings) in
/-- **A pass takes note of the answer to its poll**, if there is one, and of nothing else. -/
theorem watched_pass (worker : Worker σ) :
    Watched worker.monitor (pass daemon.muted settings worker) := by
  cases stop : worker.stop with
  | true =>
    rw [pass_of_stop stop]
    exact ⟨rfl, rfl⟩
  | false =>
    cases answer : (polling daemon.muted worker).answer with
    | error panic =>
      have answers : (pollTrace daemon.muted [] worker).answers = [] := by
        rw [answers_pollTrace, answer]
        rfl
      rw [pass_of_panic stop answer]
      refine ⟨?_, ?_⟩
      · rw [answers]
        rfl
      · rw [answers]
        rfl
    | ok connected =>
      cases connected with
      | false =>
        rw [pass_of_disconnected stop answer]
        exact .of_answer answer (List.append_nil _).symm rfl rfl rfl
      | true =>
        by_cases nothing : (polled daemon.muted worker).queue.toList = []
        · rw [pass_of_idle stop answer nothing]
          exact .of_answer answer (List.append_nil _).symm rfl rfl rfl
        · rw [pass_of_waiting stop answer nothing]
          obtain ⟨done, finish, sent⟩ := exists_sent daemon.muted settings
            (polled daemon.muted worker).queue.toList 0 0
            ((polled daemon.muted worker).observed true).emptied
          refine .of_answer answer rfl ?_ ?_ sent.monitor_eq
          · exact Trace.answers_of_polls_eq sent.polls_eq
          · exact changes_sendInOrder _ 0 0 _

/-- The poll of a pass is answered by the daemon, and the answer decides whether it goes on. -/
theorem Course.answered {worker : Worker σ} {progress : Progress σ PassOutcome}
    (course : Course daemon settings worker progress) {timeout : Nat} {meanwhile : Meanwhile}
    {answer : Except Panic Bool} (asked : .polled timeout meanwhile answer ∈ progress.trace) :
    timeout = worker.monitor.timeout
      ∧ answer = (daemon.poll worker.monitor.timeout worker.daemon).answer
      ∧ (answer = .ok false ↔ progress.outcome = .ok .disconnected) := by
  obtain ⟨going, -, same⟩ := course.eq_of_mem asked
  have counted : timeout ∈ progress.trace.polls := List.mem_filterMap.mpr ⟨_, asked, rfl⟩
  rw [course.polls_eq going] at counted
  refine ⟨List.mem_singleton.mp counted, same, ?_⟩
  rw [same]
  cases course with
  | stopped => cases asked
  | panicked _ answer => simp [answer]
  | disconnected _ answer => simp [answer]
  | idle _ answer => simp [answer]
  | @sent _ answer _ progress _ finish sent =>
    have outcome : (goOn daemon worker progress).outcome = _ := sent.outcome_eq
    rw [answer, outcome]
    cases finish <;> simp [Finish.outcome]

end Worker

/-! ## Histories -/

namespace History

variable {σ : Type} {daemon : Daemon σ} {settings : DeliverySettings}

/-- The worker has taken note of all answers in a history and has reported the changes that they
mean, and nothing else was asked than what the settings say. -/
structure Watched (daemon : Daemon σ) (settings : DeliverySettings) (history : History σ) : Prop
    where
  monitor_eq : history.worker.monitor = .seen settings.connectTimeout history.trace.answers
  changes_eq : history.trace.changes = (Monitor.edges history.trace.answers).map .ofAnswer
  asked : ∀ poll ∈ history.trace.asked, poll.1 = settings.connectTimeout
    ∧ ∃ state, poll.2 = (daemon.poll settings.connectTimeout state).answer

theorem watched_run (daemon : Daemon σ) (settings : DeliverySettings) (state : σ)
    (actions : List (Action σ)) :
    (run daemon.muted settings actions (fresh settings state)).Watched daemon settings := by
  refine run_induction (motive := Watched daemon settings)
    ⟨rfl, rfl, fun _ member => absurd member List.not_mem_nil⟩ ?_
  intro history action _ ⟨monitor, changes, asked⟩
  have grown {after : History σ} {deed : Deed} (deeds : after.deeds = history.deeds ++ [deed]) :
      after.trace = history.trace ++ deed.trace := flatMap_of_deeds Deed.trace deeds
  have kept {after : History σ} {deed : Deed} (deeds : after.deeds = history.deeds ++ [deed])
      (silent : deed.trace = []) (untouched : after.worker.monitor = history.worker.monitor) :
      after.Watched daemon settings := by
    have same : after.trace = history.trace := by rw [grown deeds, silent, List.append_nil]
    refine ⟨?_, ?_, ?_⟩
    · rw [untouched, same]
      exact monitor
    · rw [same]
      exact changes
    · rw [same]
      exact asked
  cases action with
  | enqueue | setStop | adjust => exact kept rfl rfl rfl
  | pass =>
    obtain ⟨after, reported⟩ :=
      Worker.watched_pass daemon settings history.worker
    have course := Worker.course_of_pass daemon.muted settings history.worker
    have all := Monitor.observeAll_seen settings.connectTimeout history.trace.answers
      (history.worker.pass daemon.muted settings).trace.answers
    rw [← monitor] at all
    obtain ⟨changed, seen⟩ := Prod.mk.inj all
    refine ⟨?_, ?_, ?_⟩
    · rw [grown rfl, Trace.answers_append]
      exact after.trans seen
    · rw [grown rfl, Trace.answers_append, Trace.changes_append]
      exact (congrArg₂ (· ++ ·) changes reported).trans changed
    · rw [grown rfl, Trace.asked_append]
      refine List.forall_mem_append.mpr ⟨asked, ?_⟩
      rintro ⟨timeout, answer⟩ member
      obtain ⟨meanwhile, polled⟩ := Trace.mem_asked.mp member
      obtain ⟨same, given, -⟩ := course.answered polled
      rw [monitor] at same given
      exact ⟨same, _, given⟩

/-- **Only changes of the connection are reported**, by a monitor and in any run.

A monitor that takes note of answers one after the other reports the answers with repetitions
removed, and remembers the last one.

A pass that is stopped does nothing.  Any other polls once, with the time limit of the monitor; the
answer is the one that the daemon gives, and the pass goes on unless it is no.  The monitor takes
note of the answers of the pass and of nothing else.

In a history and a run behind it, all polls are made with the time limit of the settings.  What the
worker itself reports of the connection, which is all there is in the trace of the muted daemon, are
the answers to the polls with repetitions removed, so that one warning is given for each longest run
of answers that the connection is lost.  A daemon that reports nothing of the connection leaves
these reports as they are. -/
theorem connection_edges (daemon : Daemon σ) (settings : DeliverySettings) :
    (∀ (timeout : Nat) (answers : List Bool),
      let (changes, monitor) := (Monitor.fresh timeout).observeAll answers
      Monitor.Compresses changes answers ∧ monitor = ⟨.after answers, timeout⟩
        ∧ (answers ≠ [] → monitor.state ≠ .unknown))
      ∧ (∀ worker : Worker σ,
        let progress := worker.pass daemon settings
        (worker.stop = true → progress = ⟨.ok .stopped, [], worker⟩)
          ∧ (worker.stop = false → progress.trace.polls = [worker.monitor.timeout])
          ∧ progress.worker.monitor = (worker.monitor.observeAll progress.trace.answers).2
          ∧ ∀ timeout meanwhile answer, .polled timeout meanwhile answer ∈ progress.trace →
            timeout = worker.monitor.timeout
              ∧ answer = (daemon.poll worker.monitor.timeout worker.daemon).answer
              ∧ (answer = .ok false ↔ progress.outcome = .ok .disconnected))
      ∧ ∀ (state : σ) (actions : List (Action σ)) (limit : Nat),
        let history := run daemon settings actions (fresh settings state)
        let own := run daemon.muted settings actions (fresh settings state)
        let progress := history.worker.runFor daemon settings limit
        let ownProgress := own.worker.runFor daemon.muted settings limit
        let trace := history.trace ++ progress.trace
        let ownTrace := own.trace ++ ownProgress.trace
        (ownProgress.outcome = progress.outcome ∧ ownProgress.worker = progress.worker
            ∧ Trace.Overheard daemon ownTrace trace)
          ∧ (∀ timeout meanwhile answer, .polled timeout meanwhile answer ∈ trace →
            timeout = settings.connectTimeout
              ∧ ∃ found, answer = (daemon.poll settings.connectTimeout found).answer)
          ∧ progress.worker.monitor = ⟨.after trace.answers, settings.connectTimeout⟩
          ∧ (trace.answers ≠ [] → progress.worker.monitor.state ≠ .unknown)
          ∧ Monitor.Compresses ownTrace.changes trace.answers
          ∧ ownTrace.notices.count .notConnected
            = (trace.answers.splitBy fun answer next => answer == next).countP
                (·.head? = some false)
          ∧ ((∀ notice, daemon.Reports notice → notice.change? = none) →
            trace.changes = ownTrace.changes) := by
  refine ⟨?_, ?_, ?_⟩
  · intro timeout answers
    rw [Monitor.observeAll_fresh]
    exact ⟨Monitor.compresses_edges answers, rfl, ConnectionState.after_ne_unknown⟩
  · intro worker progress
    have course : Worker.Course daemon settings worker progress :=
      Worker.course_of_pass daemon settings worker
    have muted := Worker.watched_pass daemon settings worker
    have overhears := Worker.overhears_pass daemon settings worker
    refine ⟨Worker.pass_of_stop, course.polls_eq, ?_, ?_⟩
    · have answers : progress.trace.answers = _ := overhears.overheard.filterMap_eq fun _ _ => rfl
      rw [answers]
      exact (congrArg Worker.monitor overhears.worker_eq).symm.trans muted.monitor_eq
    · exact fun timeout meanwhile answer asked => course.answered asked
  · intro state actions limit history own progress ownProgress trace ownTrace
    obtain ⟨outcome, worker, overheard⟩ : ownProgress.outcome = progress.outcome
        ∧ ownProgress.worker = progress.worker ∧ Trace.Overheard daemon ownTrace trace :=
      overhears_runFor daemon settings state actions limit
    obtain ⟨more, later, traces⟩ :=
      exists_run_of_runFor daemon.muted settings state actions limit
    have watched := watched_run daemon settings state (actions ++ more)
    have answers : trace.answers = Trace.answers _ :=
      (overheard.filterMap_eq fun _ _ => rfl).trans
        (traces (fun _ => rfl) (fun _ _ => rfl) fun _ => rfl)
    have asked : trace.asked = Trace.asked _ :=
      (overheard.filterMap_eq fun _ _ => rfl).trans
        (traces (fun _ => rfl) (fun _ _ => rfl) fun _ => rfl)
    have changes : ownTrace.changes = Trace.changes _ :=
      traces (fun _ => rfl) (fun _ _ => rfl) fun _ => rfl
    have compresses : Monitor.Compresses ownTrace.changes trace.answers := by
      rw [changes, watched.changes_eq, answers]
      exact Monitor.compresses_edges _
    have monitor : progress.worker.monitor = ⟨.after trace.answers, settings.connectTimeout⟩ := by
      rw [answers, ← worker, ← later]
      exact watched.monitor_eq
    refine ⟨⟨outcome, worker, overheard⟩, ?_, monitor, ?_, compresses, ?_, ?_⟩
    · intro timeout meanwhile answer polled
      have member := Trace.mem_asked.mpr ⟨meanwhile, polled⟩
      rw [asked] at member
      exact watched.asked _ member
    · intro some
      rw [monitor]
      exact ConnectionState.after_ne_unknown some
    · rw [Trace.count_notConnected, compresses.count_disconnected]
    · exact fun discreet => overheard.filterMap_eq discreet

/-- A daemon that answers polls from a list, and cannot be reached for any call. -/
def wavering : Daemon (List Bool) :=
  .uniform (fun answers => { answer := .ok (answers.headD false), next := answers.tail })
    fun _ answers => { answer := .ok (.error ⟨.unavailable, ""⟩), next := answers }

theorem wavering_silent (notice : Notice) : ¬ wavering.Reports notice := by
  rintro (⟨_, _, given⟩ | ⟨call, _, given⟩)
  · cases given
  · rcases call with ⟨_, _, _ | _ | _⟩ <;> cases given

/-- The connection is lost, found and lost again, with two batches put off in between: of five
answers, three are reported. -/
theorem connection_edges_wavering :
    let answers := [false, false, true, true, false]
    let history := run wavering {} [.enqueue [.start []], .pass] (fresh {} answers)
    let progress := history.worker.runFor wavering {} 4
    let trace := history.trace ++ progress.trace
    let stopped := (Worker.fresh {} answers).setStop true
    trace.answers = answers ∧ trace.attempts.length = 2
      ∧ trace.changes = [.disconnected, .connected, .disconnected]
      ∧ trace.changes.IsChain (· ≠ ·)
      ∧ progress.worker.monitor.state ≠ .unknown
      ∧ ((Monitor.fresh 3000).observeAll answers).2.state ≠ .unknown
      ∧ stopped.pass wavering {} = ⟨.ok .stopped, [], stopped⟩
      ∧ (history.worker.pass wavering {}).trace.polls = [3000]
      ∧ (∃ found, Except.ok false = (wavering.poll 3000 found).answer)
      ∧ (history.worker.pass wavering {}).outcome = .ok .disconnected := by
  intro answers history progress trace stopped
  obtain ⟨monitors, passes, runs⟩ := connection_edges wavering {}
  obtain ⟨-, asked, -, known, compresses, -, discreet⟩ :=
    runs answers [.enqueue [.start []], .pass] 4
  have same := discreet fun notice reported => absurd reported (wavering_silent notice)
  have seen : trace.answers = answers := by decide
  have some : trace.answers ≠ [] := by
    rw [seen]
    exact List.cons_ne_nil _ _
  have known := known some
  have changes : trace.changes = (Monitor.edges trace.answers).map .ofAnswer :=
    same.trans compresses.changes_eq
  obtain ⟨-, -, remembers⟩ := monitors 3000 answers
  have polled : .polled 3000 {} (.ok false) ∈ (history.worker.pass wavering {}).trace := .head _
  have first : .polled 3000 {} (.ok false) ∈ trace :=
    List.mem_append_left progress.trace (List.Mem.head _ : _ ∈ history.trace)
  refine ⟨seen, by decide, ?_, ?_, ?_, ?_, ?_, ?_, ?_, ?_⟩
  · rw [changes, seen]
    decide
  · rw [same]
    exact compresses.alternate
  · simpa only [progress, history] using known
  · exact remembers (List.cons_ne_nil _ _)
  · exact (passes stopped).1 rfl
  · exact (passes history.worker).2.1 rfl
  · exact (asked 3000 {} (.ok false) first).2
  · exact ((passes history.worker).2.2.2 3000 {} (.ok false) polled).2.2.mp rfl

end History

end JobHooks
