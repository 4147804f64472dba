import JobHooks.Proofs.Rounds

/-!
# What the worker itself reports

While the worker waits for the daemon, the daemon may report whatever it likes, also what only the
worker should report.  To tell the entries of the worker from those of the daemon, each run is
compared with the same run over `Daemon.muted`, which answers alike and reports nothing
(`Daemon.muted_silent`).

Nothing but the reports is different (`Worker.overhears_runFor`, `History.overhears_run`): the
outcome, the worker and the calls are the same, and the trace is the one of the muted daemon with
reports of the daemon in between (`Trace.Overheard`).  Whatever is picked out of the two traces is
the same, unless it is a report of the daemon.
-/

namespace JobHooks

set_option autoImplicit false

/-! ## Muted daemons -/

namespace Daemon

variable {σ : Type}

/-- A call of which the daemon reports nothing. -/
def hushed (reaction : CallReaction σ) : CallReaction σ := { reaction with notices := [] }

/-- The same daemon, except that it reports nothing. -/
def muted (daemon : Daemon σ) : Daemon σ where
  poll := fun timeout state => { daemon.poll timeout state with notices := [] }
  startHook := fun context jobs state => hushed (daemon.startHook context jobs state)
  finishHook := fun context jobs state => hushed (daemon.finishHook context jobs state)
  monitorHook := fun context target state => hushed (daemon.monitorHook context target state)

variable (daemon : Daemon σ)

theorem receive_muted (call : Call) (state : σ) :
    daemon.muted.receive call state = hushed (daemon.receive call state) := by
  unfold receive
  cases call.request <;> rfl

theorem muted_silent (notice : Notice) : ¬ daemon.muted.Reports notice := by
  rintro (⟨_, _, given⟩ | ⟨call, state, given⟩)
  · cases given
  · rw [receive_muted] at given
    cases given

end Daemon

/-! ## Traces with reports of the daemon -/

namespace Trace

variable {σ : Type} {daemon : Daemon σ}

variable (daemon) in
/-- The second trace is the first one with reports of the daemon in between. -/
inductive Overheard : Trace → Trace → Prop
  | nil : Overheard [] []
  | same (moment : Occurrence) {own whole : Trace} (rest : Overheard own whole) :
      Overheard (moment :: own) (moment :: whole)
  | given {notice : Notice} (reported : daemon.Reports notice) {own whole : Trace}
      (rest : Overheard own whole) : Overheard own (.noted notice :: whole)

theorem Overheard.refl (trace : Trace) : Overheard daemon trace trace := by
  induction trace with
  | nil => exact .nil
  | cons moment trace ih => exact .same moment ih

theorem Overheard.append {own whole moreOwn more : Trace} (overheard : Overheard daemon own whole)
    (rest : Overheard daemon moreOwn more) :
    Overheard daemon (own ++ moreOwn) (whole ++ more) := by
  induction overheard with
  | nil => exact rest
  | same moment _ ih => exact .same moment ih
  | given reported _ ih => exact .given reported ih

/-- Reports of the daemon may stand before anything. -/
theorem Overheard.after_notices {notices : List Notice} {own whole : Trace}
    (reported : ∀ notice ∈ notices, daemon.Reports notice)
    (rest : Overheard daemon own whole) :
    Overheard daemon own (notices.map .noted ++ whole) := by
  induction notices with
  | nil => exact rest
  | cons notice notices ih =>
    obtain ⟨first, others⟩ := List.forall_mem_cons.mp reported
    exact .given first (ih others)

/-- **What is not a report of the daemon is picked out of both traces alike.** -/
theorem Overheard.filterMap_eq {α : Type} {pick : Occurrence → Option α} {own whole : Trace}
    (overheard : Overheard daemon own whole)
    (deaf : ∀ notice, daemon.Reports notice → pick (.noted notice) = none) :
    whole.filterMap pick = own.filterMap pick := by
  induction overheard with
  | nil => rfl
  | same moment _ ih => rw [List.filterMap_cons, List.filterMap_cons, ih]
  | given reported _ ih => rw [List.filterMap_cons, deaf _ reported, ih]

theorem Overheard.attempts_eq {own whole : Trace} (overheard : Overheard daemon own whole) :
    whole.attempts = own.attempts :=
  overheard.filterMap_eq fun _ _ => rfl

end Trace

namespace Worker

variable {σ : Type} {daemon : Daemon σ} {settings : DeliverySettings}

/-! ## Passes and runs -/

/-- The same progress, except that the second one has reports of the daemon in its trace. -/
structure Overhears (daemon : Daemon σ) {α : Type} (own whole : Progress σ α) : Prop where
  outcome_eq : own.outcome = whole.outcome
  worker_eq : own.worker = whole.worker
  overheard : Trace.Overheard daemon own.trace whole.trace

theorem Overhears.after {α : Type} {own whole : Progress σ α} {ownBefore before : Trace}
    (overhears : Overhears daemon own whole) (earlier : Trace.Overheard daemon ownBefore before) :
    Overhears daemon (own.after ownBefore) (whole.after before) where
  outcome_eq := overhears.outcome_eq
  worker_eq := overhears.worker_eq
  overheard := earlier.append overhears.overheard

section

variable (event : Event) (worker : Worker σ)

theorem reaction_muted :
    reaction daemon.muted settings event worker
      = Daemon.hushed (reaction daemon settings event worker) := by
  rw [reaction_eq, reaction_eq, Daemon.receive_muted]

theorem attempt_muted :
    attempt daemon.muted settings event worker = attempt daemon settings event worker := by
  simp only [attempt, reaction_muted, Daemon.hushed]

theorem called_muted :
    called daemon.muted settings event worker = called daemon settings event worker := by
  simp only [called, reaction_muted, Daemon.hushed]

/-- The call for an event. -/
theorem overheard_attemptTrace :
    Trace.Overheard daemon (attemptTrace daemon.muted settings event worker)
      (attemptTrace daemon settings event worker) := by
  rw [attemptTrace_receive, attemptTrace_receive, attempt_muted, Daemon.receive_muted]
  exact .same _ (.after_notices (fun _ given => .inr ⟨_, _, given⟩) (.refl _))

end

theorem overhears_sendInOrder (batch : List Event) (sent rejected : Nat) (worker : Worker σ) :
    Overhears daemon (sendInOrder daemon.muted settings batch sent rejected worker)
      (sendInOrder daemon settings batch sent rejected worker) := by
  induction batch generalizing sent rejected worker with
  | nil => exact ⟨rfl, rfl, .nil⟩
  | cons event rest ih =>
    have call : Trace.Overheard daemon (attemptTrace daemon.muted settings event worker)
        (attemptTrace daemon settings event worker) := overheard_attemptTrace event worker
    have hushed : reaction daemon.muted settings event worker
        = Daemon.hushed (reaction daemon settings event worker) := reaction_muted event worker
    have alike : (reaction daemon.muted settings event worker).answer
        = (reaction daemon settings event worker).answer := congrArg (·.answer) hushed
    cases answer : (reaction daemon settings event worker).answer with
    | error panic =>
      rw [sendInOrder_of_panic rest sent rejected answer,
        sendInOrder_of_panic rest sent rejected (alike.trans answer), called_muted]
      exact ⟨rfl, rfl, call⟩
    | ok result =>
      cases result with
      | ok =>
        rw [sendInOrder_of_accepted rest sent rejected answer,
          sendInOrder_of_accepted rest sent rejected (alike.trans answer), called_muted]
        exact (ih _ _ _).after (call.append (.refl _))
      | error status =>
        cases transient : status.isTransient with
        | false =>
          rw [sendInOrder_of_rejected rest sent rejected answer transient,
            sendInOrder_of_rejected rest sent rejected (alike.trans answer) transient, called_muted,
            hushed]
          exact (ih _ _ _).after (call.append (.refl _))
        | true =>
          rw [sendInOrder_of_unavailable rest sent rejected answer transient,
            sendInOrder_of_unavailable rest sent rejected (alike.trans answer) transient,
            called_muted, hushed]
          exact ⟨rfl, rfl, call.append (.refl _)⟩

/-- The poll of a pass. -/
theorem overheard_pollTrace (reported : List Notice) (worker : Worker σ) :
    Trace.Overheard daemon (pollTrace daemon.muted reported worker)
      (pollTrace daemon reported worker) :=
  .after_notices (fun _ given => .inl ⟨_, _, given⟩) (.refl _)

section

variable (daemon : Daemon σ) (settings : DeliverySettings)

/-- **A pass over a muted daemon** differs in what the daemon reports, and in nothing else. -/
theorem overhears_pass (worker : Worker σ) :
    Overhears daemon (pass daemon.muted settings worker) (pass daemon settings worker) := by
  have moved : polled daemon.muted worker = polled daemon worker := rfl
  cases stop : worker.stop with
  | true =>
    rw [pass_of_stop stop, pass_of_stop stop]
    exact ⟨rfl, rfl, .nil⟩
  | false =>
    cases answer : (polling daemon worker).answer with
    | error panic =>
      have muted : (polling daemon.muted worker).answer = .error panic := answer
      rw [pass_of_panic stop answer, pass_of_panic stop muted]
      exact ⟨rfl, rfl, overheard_pollTrace _ worker⟩
    | ok connected =>
      have muted : (polling daemon.muted worker).answer = .ok connected := answer
      cases connected with
      | false =>
        rw [pass_of_disconnected stop answer, pass_of_disconnected stop muted]
        exact ⟨rfl, rfl, overheard_pollTrace _ worker⟩
      | true =>
        by_cases nothing : (polled daemon worker).queue.toList = []
        · rw [pass_of_idle stop answer nothing, pass_of_idle stop muted nothing]
          exact ⟨rfl, rfl, overheard_pollTrace _ worker⟩
        · rw [pass_of_waiting stop answer nothing, pass_of_waiting stop muted nothing, moved]
          exact ((overhears_sendInOrder _ 0 0 _).after (.refl _)).after
            (overheard_pollTrace _ worker)

theorem overhears_passes (limit : Nat) (worker : Worker σ) :
    Overhears daemon (passes daemon.muted settings limit worker)
      (passes daemon settings limit worker) := by
  induction limit generalizing worker with
  | zero => exact ⟨rfl, rfl, .nil⟩
  | succ limit ih =>
    obtain ⟨outcome, after, trace⟩ := overhears_pass daemon settings worker
    simp only [passes, outcome, after]
    cases (pass daemon settings worker).outcome with
    | error panic => exact ⟨rfl, rfl, trace⟩
    | ok result =>
      cases result with
      | stopped => exact ⟨rfl, rfl, trace⟩
      | disconnected | idle | drained | deferred => exact (ih _).after (trace.append (.refl _))

/-- **A run over a muted daemon** differs in what the daemon reports, and in nothing else. -/
theorem overhears_runFor (limit : Nat) (worker : Worker σ) :
    Overhears daemon (runFor daemon.muted settings limit worker)
      (runFor daemon settings limit worker) := by
  obtain ⟨outcome, after, trace⟩ := overhears_passes daemon settings limit worker
  have closes : closing (passes daemon.muted settings limit worker)
      = closing (passes daemon settings limit worker) := by
    simp only [closing, outcome, after]
  refine ⟨outcome, after, .same _ ?_⟩
  rw [closes]
  exact trace.append (.refl _)

end

end Worker

/-! ## Histories -/

namespace History

variable {σ : Type} (daemon : Daemon σ) (settings : DeliverySettings)

/-- What happens in the course of one action more. -/
theorem overhears_act {own whole : History σ} (worker : own.worker = whole.worker)
    (trace : Trace.Overheard daemon own.trace whole.trace) (action : Action σ) :
    (own.act daemon.muted settings action).worker = (whole.act daemon settings action).worker
      ∧ Trace.Overheard daemon (own.act daemon.muted settings action).trace
        (whole.act daemon settings action).trace := by
  cases action with
  | enqueue | setStop | adjust =>
    simp only [History.trace, act, worker, List.flatMap_append] at trace ⊢
    exact ⟨trivial, trace.append (.refl _)⟩
  | pass =>
    have pass := Worker.overhears_pass daemon settings whole.worker
    simp only [History.trace, act, worker, List.flatMap_append] at trace ⊢
    refine ⟨pass.worker_eq, trace.append ?_⟩
    simpa only [List.flatMap_singleton, Deed.trace] using pass.overheard

/-- **A history over a muted daemon** differs in what the daemon reports, and in nothing else. -/
theorem overhears_run (actions : List (Action σ)) {own whole : History σ}
    (worker : own.worker = whole.worker) (trace : Trace.Overheard daemon own.trace whole.trace) :
    (run daemon.muted settings actions own).worker = (run daemon settings actions whole).worker
      ∧ Trace.Overheard daemon (run daemon.muted settings actions own).trace
        (run daemon settings actions whole).trace := by
  induction actions generalizing own whole with
  | nil => exact ⟨worker, trace⟩
  | cons action actions ih =>
    obtain ⟨same, grown⟩ := overhears_act daemon settings worker trace action
    exact ih same grown

/-- **A run behind a history**, over a daemon and over the muted one. -/
theorem overhears_runFor (state : σ) (actions : List (Action σ)) (limit : Nat) :
    let history := run daemon settings actions (fresh settings state)
    let own := run daemon.muted settings actions (fresh settings state)
    let progress := history.worker.runFor daemon settings limit
    let ownProgress := own.worker.runFor daemon.muted settings limit
    ownProgress.outcome = progress.outcome ∧ ownProgress.worker = progress.worker
      ∧ Trace.Overheard daemon (own.trace ++ ownProgress.trace)
        (history.trace ++ progress.trace) := by
  intro history own progress ownProgress
  obtain ⟨worker, trace⟩ :
      own.worker = history.worker ∧ Trace.Overheard daemon own.trace history.trace :=
    overhears_run daemon settings actions rfl .nil
  have run : Worker.Overhears daemon ownProgress progress := by
    have same : own.worker = history.worker := worker
    simp only [ownProgress, progress, same]
    exact Worker.overhears_runFor daemon settings limit history.worker
  exact ⟨run.outcome_eq, run.worker_eq, trace.append run.overheard⟩

end History

end JobHooks
