import JobHooks.Proofs.OwnEntries
import JobHooks.Proofs.Totals

/-!
# What the log tells

The worker reports how many events it has taken, what came of each call, and how many events go back
to the queue.  It counts the same things in its totals, at other places.  `Worker.Agrees` says that
both tell the same story, and that of all entries on calls there is exactly one for each call that
did not panic, in the order of the calls.

The entries meant are those of the worker itself.  They are all there are in a run over a muted
daemon, whose trace is compared with the real one in `Trace.Overheard`.  Where the daemon reports
nothing of this kind, they can be read off the real log (`History.log_agrees`).
-/

namespace JobHooks

set_option autoImplicit false

/-! ## Entries -/

namespace Notice

/-- What an entry tells of a call: the kind of its hook, and what came of it. -/
def told? : Notice → Option (HookType × Verdict)
  | sent kind => some (kind, .accepted)
  | rejected kind _ _ => some (kind, .rejected)
  | deferred kind _ _ _ => some (kind, .unavailable)
  | _ => none

/-- Whether an entry tells of an event that was sent. -/
def isSent : Notice → Bool
  | sent _ => true
  | _ => false

/-- Whether an entry tells of an event that was rejected. -/
def isRejection : Notice → Bool
  | rejected _ _ _ => true
  | _ => false

/-- How many events an entry tells were taken. -/
def takenCount : Notice → Nat
  | dequeued count => count
  | _ => 0

/-- How many events an entry tells were put off. -/
def requeuedCount : Notice → Nat
  | deferred _ requeued _ _ => requeued
  | _ => 0

/-- Whether an entry tells of events that were taken, or of a call. -/
def isEntry : Notice → Bool
  | dequeued _ | sent _ | rejected _ _ _ | deferred _ _ _ _ => true
  | _ => false

/-- Any other notice tells nothing of them. -/
theorem tells_nothing {notice : Notice} (other : notice.isEntry = false) :
    notice.told? = none ∧ notice.takenCount = 0 ∧ notice.requeuedCount = 0 := by
  cases notice <;> first | exact ⟨rfl, rfl, rfl⟩ | cases other

/-- What the entries of a log tell together. -/
def total (number : Notice → Nat) (log : List Notice) : Nat :=
  log.foldr (fun notice others => number notice + others) 0

theorem total_append (number : Notice → Nat) (log more : List Notice) :
    total number (log ++ more) = total number log + total number more := by
  induction log with
  | nil => exact (Nat.zero_add _).symm
  | cons notice log ih => exact (congrArg _ ih).trans (Nat.add_assoc _ _ _).symm

/-- Only the entries count. -/
theorem total_filter {number : Notice → Nat}
    (silent : ∀ notice : Notice, notice.isEntry = false → number notice = 0) (log : List Notice) :
    total number (log.filter isEntry) = total number log := by
  induction log with
  | nil => rfl
  | cons notice log ih =>
    have split : total number (notice :: log) = number notice + total number log := rfl
    cases entry : notice.isEntry with
    | true =>
      rw [List.filter_cons_of_pos entry, split, ← ih]
      rfl
    | false =>
      rw [List.filter_cons_of_neg (by rw [entry]; exact Bool.false_ne_true), split, ih,
        silent notice entry, Nat.zero_add]

/-- Only the entries tell of calls. -/
theorem filterMap_filter (log : List Notice) :
    (log.filter isEntry).filterMap told? = log.filterMap told? := by
  rw [List.filterMap_filter]
  refine List.filterMap_congr fun notice _ => ?_
  cases notice <;> rfl

/-- What is told of events that were sent is counted among all that is told of calls. -/
theorem countP_isSent (log : List Notice) :
    log.countP isSent = (log.filterMap told?).countP (·.2 = .accepted) := by
  rw [List.countP_filterMap]
  refine List.countP_congr fun notice _ => ?_
  cases notice <;> simp [isSent, told?]

/-- What is told of events that were rejected is counted among all that is told of calls. -/
theorem countP_isRejection (log : List Notice) :
    log.countP isRejection = (log.filterMap told?).countP (·.2 = .rejected) := by
  rw [List.countP_filterMap]
  refine List.countP_congr fun notice _ => ?_
  cases notice <;> simp [isRejection, told?]

end Notice

/-- What there is to tell of a call: the kind of its hook, and what came of it. -/
def Attempt.told (attempt : Attempt) : HookType × Verdict := (attempt.call.kind, attempt.verdict)

/-- What there is to tell of some calls.  Of one that panicked nothing is told. -/
def Attempts.told (attempts : List Attempt) : List (HookType × Verdict) :=
  (attempts.filter (·.verdict ≠ .panicked)).map Attempt.told

namespace Attempts

theorem told_append (earlier later : List Attempt) :
    told (earlier ++ later) = told earlier ++ told later := by
  simp only [told, List.filter_append, List.map_append]

/-- Where no call panicked, there is something to tell of each. -/
theorem told_of_answered {attempts : List Attempt}
    (answered : ∀ attempt ∈ attempts, attempt.verdict ≠ .panicked) :
    told attempts = attempts.map Attempt.told := by
  rw [told, List.filter_eq_self.mpr fun attempt made => decide_eq_true (answered attempt made)]

/-- The calls with a verdict are counted in what is told of them. -/
theorem countP_told {verdict : Verdict} (answered : verdict ≠ .panicked)
    (attempts : List Attempt) :
    (told attempts).countP (·.2 = verdict) = (withVerdict verdict attempts).length := by
  induction attempts with
  | nil => rfl
  | cons attempt attempts ih =>
    rw [← List.singleton_append, told_append, withVerdict_append, List.countP_append,
      List.length_append, ih]
    congr 1
    by_cases same : attempt.verdict = verdict
    · simp [told, Attempt.told, same, answered]
    · by_cases broken : attempt.verdict = .panicked
      · simp [told, broken, answered.symm]
      · simp [told, Attempt.told, same, broken]

end Attempts

namespace Trace

@[simp] theorem notices_append (earlier later : Trace) :
    notices (earlier ++ later) = notices earlier ++ notices later :=
  List.filterMap_append

@[simp] theorem notices_map_noted (log : List Notice) : notices (log.map .noted) = log := by
  rw [notices, List.filterMap_map]
  exact List.filterMap_some

/-! ## What the entries of a trace tell -/

/-- The entries of a trace tell of its calls, and that so many events were taken and put off. -/
structure Logged (trace : Trace) (taken putOff : Nat) : Prop where
  told_eq : trace.notices.filterMap Notice.told? = Attempts.told trace.attempts
  taken_eq : Notice.total Notice.takenCount trace.notices = taken
  putOff_eq : Notice.total Notice.requeuedCount trace.notices = putOff

theorem Logged.nil : Logged [] 0 0 := ⟨rfl, rfl, rfl⟩

theorem Logged.append {earlier later : Trace} {taken putOff moreTaken morePutOff : Nat}
    (logged : Logged earlier taken putOff) (rest : Logged later moreTaken morePutOff) :
    Logged (earlier ++ later) (taken + moreTaken) (putOff + morePutOff) where
  told_eq := by
    rw [notices_append, attempts_append, List.filterMap_append, Attempts.told_append,
      logged.told_eq, rest.told_eq]
  taken_eq := by rw [notices_append, Notice.total_append, logged.taken_eq, rest.taken_eq]
  putOff_eq := by rw [notices_append, Notice.total_append, logged.putOff_eq, rest.putOff_eq]

/-- Notices that are no entries tell nothing. -/
theorem logged_of_others {log : List Notice} (others : ∀ notice ∈ log, notice.isEntry = false) :
    Logged (log.map .noted) 0 0 := by
  induction log with
  | nil => exact .nil
  | cons notice log ih =>
    obtain ⟨first, others⟩ := List.forall_mem_cons.mp others
    obtain ⟨untold, none, unmoved⟩ := Notice.tells_nothing first
    have one : Logged [.noted notice] 0 0 :=
      ⟨List.filterMap_cons_none untold, none, unmoved⟩
    exact one.append (ih others)

/-- The notices of a kind can be picked out of a trace one by one. -/
theorem filter_notices (keep : Notice → Bool) (trace : Trace) :
    trace.notices.filter keep = trace.filterMap fun
      | .noted notice => if keep notice then some notice else none
      | _ => none := by
  rw [notices, List.filter_filterMap]
  refine List.filterMap_congr fun moment _ => ?_
  cases moment with
  | noted notice => cases kept : keep notice <;> simp [Option.filter, kept]
  | polled | taken | called | paused => rfl

end Trace

/-! ## The entries of a pass -/

/-- How many events a pass puts off, unless it panics. -/
def PassOutcome.putOff : Except Panic PassOutcome → Nat
  | .ok outcome => outcome.requeued
  | .error _ => 0

namespace Worker

variable {σ : Type} {daemon : Daemon σ} {settings : DeliverySettings}

section

variable {event : Event} {worker : Worker σ}

/-- What there is to tell of the call for an event. -/
theorem told_attempt {verdict : Verdict}
    (given : (attempt daemon settings event worker).verdict = verdict) :
    Attempts.told [attempt daemon settings event worker]
      = if verdict = .panicked then [] else [(event.hookType, verdict)] := by
  have kind : (attempt daemon settings event worker).call.kind = event.hookType := rfl
  cases verdict <;> simp [Attempts.told, Attempt.told, given, kind]

/-- Behind a call stands the entry on what came of it, if there is one. -/
theorem logged_attempt (report? : Option Notice) {verdict : Verdict} {putOff : Nat}
    (given : (attempt daemon settings event worker).verdict = verdict)
    (told : report?.toList.filterMap Notice.told?
      = if verdict = .panicked then [] else [(event.hookType, verdict)])
    (taken : Notice.total Notice.takenCount report?.toList = 0)
    (put : Notice.total Notice.requeuedCount report?.toList = putOff) :
    Trace.Logged (attemptTrace daemon.muted settings event worker ++ report?.toList.map .noted) 0
      putOff := by
  have whole : attemptTrace daemon.muted settings event worker ++ report?.toList.map .noted
      = [Notice.sending event.hookType].map .noted
        ++ .called (attempt daemon settings event worker) :: report?.toList.map .noted := by
    rw [attemptTrace_receive, Daemon.receive_muted, attempt_muted]
    rfl
  have log : Trace.notices (attemptTrace daemon.muted settings event worker
      ++ report?.toList.map .noted) = .sending event.hookType :: report?.toList := by
    rw [whole, Trace.notices_append, Trace.notices_map_noted]
    exact congrArg _ (Trace.notices_map_noted _)
  refine ⟨?_, ?_, ?_⟩
  · rw [log, Trace.attempts_append, attempts_attemptTrace, Trace.attempts_map_noted,
      List.append_nil, attempt_muted, told_attempt given, ← told]
    rfl
  · rw [log]
    exact (Nat.zero_add _).trans taken
  · rw [log]
    exact (Nat.zero_add _).trans put

end

/-- **The entries of a batch tell of its calls**, and of the events that are put off in the end. -/
theorem logged_sendInOrder (batch : List Event) (sent rejected : Nat) (worker : Worker σ) :
    let progress := sendInOrder daemon.muted settings batch sent rejected worker
    progress.trace.Logged 0 (PassOutcome.putOff progress.outcome) := by
  induction batch generalizing sent rejected worker with
  | nil => exact .nil
  | cons event rest ih =>
    have verdict : (attempt daemon settings event worker).verdict
        = .ofAnswer (reaction daemon settings event worker).answer := rfl
    have alike : (reaction daemon.muted settings event worker).answer
        = (reaction daemon settings event worker).answer :=
      congrArg (·.answer) (reaction_muted event worker)
    -- The entries of the call stand before those of the rest of the batch.
    have front {report : Notice} {putOff : Nat} {later : Trace}
        (first : Trace.Logged (attemptTrace daemon.muted settings event worker
          ++ (some report).toList.map .noted) 0 0)
        (rest : later.Logged 0 putOff) :
        Trace.Logged (attemptTrace daemon.muted settings event worker ++ [.noted report] ++ later) 0
          putOff := by
      have both := first.append rest
      rw [Nat.zero_add, Nat.zero_add] at both
      exact both
    cases answer : (reaction daemon settings event worker).answer with
    | error panic =>
      rw [answer] at verdict
      rw [sendInOrder_of_panic rest sent rejected (alike.trans answer)]
      have call := logged_attempt none verdict rfl rfl rfl
      rw [Option.toList_none, List.map_nil, List.append_nil] at call
      exact call
    | ok result =>
      cases result with
      | ok =>
        rw [answer] at verdict
        rw [sendInOrder_of_accepted rest sent rejected (alike.trans answer)]
        exact front (logged_attempt (some _) verdict rfl rfl rfl) (ih _ _ _)
      | error status =>
        cases transient : status.isTransient with
        | false =>
          rw [answer, Verdict.ofAnswer, transient] at verdict
          rw [sendInOrder_of_rejected rest sent rejected (alike.trans answer) transient]
          exact front (logged_attempt (some _) verdict rfl rfl rfl) (ih _ _ _)
        | true =>
          rw [answer, Verdict.ofAnswer, transient] at verdict
          rw [sendInOrder_of_unavailable rest sent rejected (alike.trans answer) transient]
          exact logged_attempt (some _) verdict rfl rfl rfl

/-- The entries of a poll tell of no calls. -/
theorem logged_pollTrace {reported : List Notice} {worker : Worker σ}
    (others : ∀ notice ∈ reported, notice.isEntry = false) :
    (pollTrace daemon.muted reported worker).Logged 0 0 := by
  have asked : Trace.Logged [.polled worker.monitor.timeout
      (worker.meanwhile (polling daemon.muted worker).effects)
      (polling daemon.muted worker).answer] 0 0 := ⟨rfl, rfl, rfl⟩
  exact asked.append (Trace.logged_of_others others)

/-- What the monitor reports tells of no calls. -/
theorem isEntry_of_mem_notices {monitor : Monitor} {connected : Bool} :
    ∀ notice ∈ monitor.notices connected, notice.isEntry = false := by
  intro notice given
  obtain ⟨transition, -, rfl⟩ := List.mem_map.mp given
  cases transition <;> rfl

/-- **The entries of a pass tell of its calls**, and of the events that it takes and puts off. -/
theorem logged_pass (worker : Worker σ) :
    let progress := pass daemon.muted settings worker
    progress.trace.Logged progress.trace.taken.length (PassOutcome.putOff progress.outcome) := by
  cases stop : worker.stop with
  | true =>
    rw [pass_of_stop stop]
    exact .nil
  | false =>
    cases answer : (polling daemon.muted worker).answer with
    | error panic =>
      rw [pass_of_panic stop answer]
      simp only [taken_pollTrace]
      exact logged_pollTrace fun _ given => absurd given List.not_mem_nil
    | ok connected =>
      cases connected with
      | false =>
        rw [pass_of_disconnected stop answer]
        simp only [taken_pollTrace]
        exact logged_pollTrace isEntry_of_mem_notices
      | true =>
        by_cases nothing : (polled daemon.muted worker).queue.toList = []
        · rw [pass_of_idle stop answer nothing]
          simp only [taken_pollTrace]
          exact logged_pollTrace isEntry_of_mem_notices
        · rw [pass_of_waiting stop answer nothing]
          obtain ⟨done, finish, sent⟩ := exists_sent daemon.muted settings
            (polled daemon.muted worker).queue.toList 0 0
            ((polled daemon.muted worker).observed true).emptied
          have took : Trace.Logged [.taken (polled daemon.muted worker).queue.toList,
              .noted (.dequeued (polled daemon.muted worker).queue.toList.length)]
              (polled daemon.muted worker).queue.toList.length 0 := ⟨rfl, rfl, rfl⟩
          have batch : (sendInOrder daemon.muted settings
              (polled daemon.muted worker).queue.toList 0 0
              ((polled daemon.muted worker).observed true).emptied).trace.Logged 0 _ :=
            logged_sendInOrder _ 0 0 _
          have asked : (pollTrace daemon.muted ((polled daemon.muted worker).monitor.notices true)
              worker).Logged 0 0 := logged_pollTrace isEntry_of_mem_notices
          have whole := asked.append (took.append batch)
          intro progress
          have taken : progress.trace.taken = (polled daemon.muted worker).queue.toList := by
            simp only [progress, taken_goOn, sent.taken_eq, List.append_nil]
          rw [taken]
          simp only [Nat.zero_add, Nat.add_zero] at whole
          exact whole

/-! ## Logs, calls and totals -/

/-- A log tells the same story as the calls and the totals.  It has one entry for each call that did
not panic, which tells of the kind of its hook and of what came of it, in the order of the calls;
and the totals count what the entries tell. -/
structure Agrees (log : List Notice) (attempts : List Attempt) (stats : DeliveryStats) : Prop where
  told_eq : log.filterMap Notice.told? = Attempts.told attempts
  sent_eq : stats.sent = UInt64.ofNat (log.countP Notice.isSent)
  rejected_eq : stats.rejected = UInt64.ofNat (log.countP Notice.isRejection)
  requeued_eq : stats.requeued = UInt64.ofNat (Notice.total Notice.requeuedCount log)
  dequeued_eq : stats.dequeued = UInt64.ofNat (Notice.total Notice.takenCount log)

/-- Whether a log agrees can be seen from its entries. -/
theorem Agrees.of_filter_eq {log other : List Notice} {attempts : List Attempt}
    {stats : DeliveryStats} (same : log.filter Notice.isEntry = other.filter Notice.isEntry)
    (agrees : Agrees other attempts stats) : Agrees log attempts stats := by
  have told : log.filterMap Notice.told? = other.filterMap Notice.told? := by
    rw [← Notice.filterMap_filter, same, Notice.filterMap_filter]
  have totals {number : Notice → Nat}
      (silent : ∀ notice : Notice, notice.isEntry = false → number notice = 0) :
      Notice.total number log = Notice.total number other := by
    rw [← Notice.total_filter silent, same, Notice.total_filter silent]
  refine ⟨told.trans agrees.told_eq, ?_, ?_, ?_, ?_⟩
  · rw [Notice.countP_isSent, told, ← Notice.countP_isSent, agrees.sent_eq]
  · rw [Notice.countP_isRejection, told, ← Notice.countP_isRejection, agrees.rejected_eq]
  · rw [totals fun _ other => (Notice.tells_nothing other).2.2, agrees.requeued_eq]
  · rw [totals fun _ other => (Notice.tells_nothing other).2.1, agrees.dequeued_eq]

end Worker

namespace History

variable {σ : Type}

/-- The calls of a history are those in its trace. -/
theorem attempts_trace (history : History σ) : history.trace.attempts = history.attempts := by
  rw [trace, attempts, Trace.attempts, List.filterMap_flatMap]
  refine List.flatMap_congr fun deed _ => ?_
  cases deed <;> rfl

/-- No call of a history panics where the daemon never does. -/
theorem answered_run {daemon : Daemon σ} {settings : DeliverySettings} (calm : daemon.NeverPanics)
    (state : σ) (actions : List (Action σ)) :
    ∀ attempt ∈ (run daemon settings actions (fresh settings state)).attempts,
      attempt.verdict ≠ .panicked := by
  intro attempt made panicked
  obtain ⟨panic, broken⟩ := Attempt.verdict_eq_panicked_iff.mp panicked
  obtain ⟨found, call⟩ := made_run daemon settings state actions attempt made
  obtain ⟨result, answer⟩ := calm.call (.fresh settings.rpcTimeout) attempt.event.payload found
  rw [(daemon.dispatch_reaches _ _ found).2] at answer
  have answered : attempt.answer = .ok result := by
    rw [call.answer_eq, call.call_eq]
    exact answer
  cases broken.symm.trans answered

/-- **The entries of a history tell of its calls**, and of the events taken and put off. -/
theorem logged_run (daemon : Daemon σ) (settings : DeliverySettings) (state : σ)
    (actions : List (Action σ)) :
    let history := run daemon.muted settings actions (fresh settings state)
    history.trace.Logged history.taken.length history.putOff.length := by
  refine run_induction
    (motive := fun history => history.trace.Logged history.taken.length history.putOff.length)
    .nil ?_
  intro history action _ logged
  have grown {after : History σ} {deed : Deed} (deeds : after.deeds = history.deeds ++ [deed])
      (last : deed.trace.Logged deed.taken.length deed.putOff.length) :
      after.trace.Logged after.taken.length after.putOff.length := by
    rw [taken_of_deeds deeds, putOff_of_deeds deeds, List.length_append, List.length_append, trace,
      flatMap_of_deeds Deed.trace deeds]
    exact logged.append last
  cases action with
  | enqueue | setStop | adjust => exact grown rfl .nil
  | pass =>
    refine grown rfl ?_
    have putOff : (Deed.passed (history.worker.pass daemon.muted settings).outcome
        (history.worker.pass daemon.muted settings).trace).putOff.length
        = PassOutcome.putOff (history.worker.pass daemon.muted settings).outcome := by
      cases outcome : (history.worker.pass daemon.muted settings).outcome with
      | error panic => rfl
      | ok result =>
        have unbroken : (Deed.passed (history.worker.pass daemon.muted settings).outcome
            (history.worker.pass daemon.muted settings).trace).broken = false := by
          rw [outcome]
          rfl
        have faithful := Worker.faithful_pass history.worker unbroken
        rw [outcome] at faithful
        exact faithful.requeued_eq.symm
    rw [putOff]
    exact Worker.logged_pass history.worker

/-- The log of a history over a muted daemon tells the same story as its calls and totals. -/
theorem agrees_run (daemon : Daemon σ) (settings : DeliverySettings) (state : σ)
    (actions : List (Action σ)) :
    let history := run daemon.muted settings actions (fresh settings state)
    Worker.Agrees history.trace.notices history.trace.attempts history.worker.stats := by
  intro history
  have logged : history.trace.Logged history.taken.length history.putOff.length :=
    logged_run daemon settings state actions
  have tallied : history.Tallied := tallied_run daemon.muted settings state actions
  obtain ⟨sent, rejected⟩ : history.worker.stats.sent = UInt64.ofNat history.accepted.length
      ∧ history.worker.stats.rejected = UInt64.ofNat history.rejected.length :=
    counted_run daemon.muted settings state actions
  have answered : Verdict.accepted ≠ .panicked ∧ Verdict.rejected ≠ .panicked := by decide
  refine ⟨logged.told_eq, ?_, ?_, ?_, ?_⟩
  · rw [sent, accepted, ← Attempts.countP_told answered.1, Notice.countP_isSent, logged.told_eq,
      attempts_trace]
  · rw [rejected, History.rejected, ← Attempts.countP_told answered.2, Notice.countP_isRejection,
      logged.told_eq, attempts_trace]
  · rw [tallied.requeued_eq, logged.putOff_eq]
  · rw [tallied.dequeued_eq, logged.taken_eq]

/-- **The log and the totals tell the same story**, in any history and in a run behind it.

The log of the worker itself, which is that of the muted daemon, has one entry for each call that
was answered: the entries on calls tell, in the order of the calls, of the kind of hook and of what
the answer makes of it.  The totals count the entries on events that were sent and rejected, and are
the sums of the numbers in the entries on events that were taken and put off, as numbers of 64 bits.
Where no call panics, none is left out.  A daemon that reports no such entries leaves the log as it
is. -/
theorem log_agrees (daemon : Daemon σ) (settings : DeliverySettings) (state : σ)
    (actions : List (Action σ)) (limit : Nat) :
    let history := run daemon settings actions (fresh settings state)
    let own := run daemon.muted settings actions (fresh settings state)
    let progress := history.worker.runFor daemon settings limit
    let ownProgress := own.worker.runFor daemon.muted settings limit
    let trace := history.trace ++ progress.trace
    let ownTrace := own.trace ++ ownProgress.trace
    (ownProgress.outcome = progress.outcome ∧ ownProgress.worker = progress.worker
        ∧ Trace.Overheard daemon ownTrace trace)
      ∧ Worker.Agrees ownTrace.notices trace.attempts progress.worker.stats
      ∧ (daemon.NeverPanics →
        Attempts.told trace.attempts = trace.attempts.map Attempt.told)
      ∧ ((∀ notice, daemon.Reports notice → notice.isEntry = false) →
        Worker.Agrees trace.notices trace.attempts progress.worker.stats) := by
  intro history own progress ownProgress trace ownTrace
  obtain ⟨outcome, worker, overheard⟩ : ownProgress.outcome = progress.outcome
      ∧ ownProgress.worker = progress.worker ∧ Trace.Overheard daemon ownTrace trace :=
    overhears_runFor daemon settings state actions limit
  obtain ⟨more, later, traces⟩ :=
    exists_run_of_runFor daemon.muted settings state actions limit
  have own_agrees : Worker.Agrees ownTrace.notices trace.attempts progress.worker.stats := by
    have agrees := agrees_run daemon settings state (actions ++ more)
    have calls : ownTrace.attempts = _ := traces (fun _ => rfl) (fun _ _ => rfl) fun _ => rfl
    rw [overheard.attempts_eq, calls, ← worker, ← later]
    refine agrees.of_filter_eq ?_
    rw [Trace.filter_notices, Trace.filter_notices]
    exact traces (fun _ => rfl) (fun _ _ => rfl) fun _ => rfl
  refine ⟨⟨outcome, worker, overheard⟩, own_agrees, ?_, ?_⟩
  · intro calm
    obtain ⟨further, -, longer⟩ :=
      exists_run_of_runFor daemon settings state actions limit
    have calls : trace.attempts
        = (run daemon settings (actions ++ further) (fresh settings state)).trace.attempts :=
      longer (fun _ => rfl) (fun _ _ => rfl) fun _ => rfl
    rw [calls, attempts_trace]
    exact Attempts.told_of_answered (answered_run calm state (actions ++ further))
  · intro discreet
    refine own_agrees.of_filter_eq ?_
    rw [Trace.filter_notices, Trace.filter_notices]
    refine overheard.filterMap_eq fun notice reported => ?_
    simp only [discreet notice reported]
    rfl

theorem falling_silent (notice : Notice) : ¬ Worker.falling.Reports notice := by
  rintro (⟨_, _, given⟩ | ⟨call, _, given⟩)
  · cases given
  · rcases call with ⟨_, _, _ | _ | _⟩ <;> cases given

/-- One event is sent in the pass of a history and two are put off; four are put off in the run
behind it. -/
theorem log_agrees_falling :
    let actions : List (Action Nat) :=
      [.enqueue [.start [], .start [], .start []], .pass, .setStop false]
    let history := run Worker.falling {} actions (fresh {} 0)
    let progress := history.worker.runFor Worker.falling {} 3
    let trace := history.trace ++ progress.trace
    progress.outcome = .ok .stopped
      ∧ trace.attempts.map Attempt.told
        = [(.start, .accepted), (.start, .unavailable), (.finish, .unavailable)]
      ∧ trace.notices.filterMap Notice.told? = trace.attempts.map Attempt.told
      ∧ progress.worker.stats = ⟨7, 1, 0, 6⟩
      ∧ UInt64.ofNat 7 = UInt64.ofNat (Notice.total Notice.takenCount trace.notices) := by
  intro actions history progress trace
  obtain ⟨-, -, answered, real⟩ := log_agrees Worker.falling {} 0 actions 3
  have agrees : Worker.Agrees trace.notices trace.attempts progress.worker.stats :=
    real fun notice reported => absurd reported (falling_silent notice)
  have stats : progress.worker.stats = ⟨7, 1, 0, 6⟩ := by decide
  refine ⟨rfl, rfl, agrees.told_eq.trans (answered Worker.falling_neverPanics), stats, ?_⟩
  rw [← agrees.dequeued_eq, stats]
  rfl

end History

end JobHooks
