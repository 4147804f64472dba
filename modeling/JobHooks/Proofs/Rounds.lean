import JobHooks.Proofs.Pacing

/-!
# The passes of a run

The trace of a run does not show where one pass ends and the next one begins.  `Worker.starts` lists
the workers with which the passes of a run begin: there is one for each pass, and none behind a pass
that panics or is stopped.  The trace of the run is what its passes leave in it, each with the pause
behind it (`Worker.trace_passes`).

A run that begins where a history has ended makes passes with which the history could have gone on
(`History.exists_going`), so that what is known of histories is known of runs.
-/

namespace JobHooks

set_option autoImplicit false

namespace Worker

variable {σ : Type} (daemon : Daemon σ) (settings : DeliverySettings)

/-- The workers with which the passes of a run of `limit` passes at most begin. -/
def starts : Nat → Worker σ → List (Worker σ)
  | 0, _ => []
  | limit + 1, worker =>
    worker :: match (pass daemon settings worker).outcome with
      | .error _ | .ok .stopped => []
      | .ok _ => starts limit (pass daemon settings worker).worker

variable {daemon settings} {worker : Worker σ}

/-- A worker that was asked to stop makes one pass, which does nothing. -/
theorem starts_of_stop (stop : worker.stop = true) (limit : Nat) :
    starts daemon settings (limit + 1) worker = [worker] := by
  rw [starts, pass_of_stop stop]

/-- No pass begins behind one that panics. -/
theorem starts_of_panic {panic : Panic}
    (outcome : (pass daemon settings worker).outcome = .error panic) (limit : Nat) :
    starts daemon settings (limit + 1) worker = [worker] := by
  rw [starts, outcome]

/-- Passes of a worker that was asked to stop. -/
theorem passes_of_stop (stop : worker.stop = true) (limit : Nat) :
    passes daemon settings (limit + 1) worker = ⟨.ok .stopped, [], worker⟩ := by
  rw [passes, pass_of_stop stop]

/-- Only a worker that was not asked to stop makes a pass that others follow. -/
theorem going_of_passes_eq {before : Trace}
    (passes_eq : ∀ limit, passes daemon settings (limit + 1) worker
      = (passes daemon settings limit (pass daemon settings worker).worker).after before) :
    worker.stop = false := by
  refine eq_false_of_ne_true fun stop => ?_
  have first := passes_eq 0
  rw [passes_of_stop stop] at first
  cases congrArg Progress.outcome first

/-- Behind any other pass the next one begins. -/
theorem starts_of_going {outcome : PassOutcome} (going : worker.stop = false)
    (made : (pass daemon settings worker).outcome = .ok outcome) (limit : Nat) :
    starts daemon settings (limit + 1) worker
      = worker :: starts daemon settings limit (pass daemon settings worker).worker := by
  have goes := (course_of_pass daemon settings worker).outcome_ne going
  rw [starts, made]
  cases outcome with
  | stopped => exact absurd made goes
  | disconnected | idle | drained | deferred => rfl

/-- **The trace of some passes** is what they leave in it one after the other. -/
theorem trace_passes (limit : Nat) (worker : Worker σ) :
    (passes daemon settings limit worker).trace
      = (starts daemon settings limit worker).flatMap (paced daemon settings) := by
  induction limit generalizing worker with
  | zero => rfl
  | succ limit ih =>
    simp only [passes, starts]
    cases outcome : (pass daemon settings worker).outcome with
    | error panic =>
      simp only [List.flatMap_cons, List.flatMap_nil, List.append_nil, paced, outcome, pausing]
    | ok result =>
      cases result with
      | stopped =>
        have silent : pausing settings (.ok .stopped) = [] := rfl
        simp only [List.flatMap_cons, List.flatMap_nil, List.append_nil, paced, outcome, silent]
      | disconnected | idle | drained | deferred =>
        simp only [Progress.after, ih, List.flatMap_cons, paced, outcome, pausing]

/-- Passes that have ended are not changed by a higher limit. -/
theorem passes_of_finished {limit : Nat}
    (finished : (passes daemon settings limit worker).outcome ≠ .ok .unfinished) (more : Nat) :
    passes daemon settings (limit + more) worker = passes daemon settings limit worker := by
  induction limit generalizing worker with
  | zero => exact absurd rfl finished
  | succ limit ih =>
    rw [Nat.add_right_comm]
    cases round daemon settings worker with
    | stopped _ passes_eq | panicked _ passes_eq => rw [passes_eq, passes_eq]
    | made _ pauses passes_eq =>
      rw [passes_eq] at finished
      rw [passes_eq, passes_eq, ih finished]

/-- Passes that have ended had a last one, and the worker was not asked to stop before any other.
If they were stopped, it was before the last one. -/
theorem exists_last_of_finished {limit : Nat}
    (finished : (passes daemon settings limit worker).outcome ≠ .ok .unfinished) :
    ∃ earlier last, starts daemon settings limit worker = earlier ++ [last]
      ∧ (∀ start ∈ earlier, start.stop = false)
      ∧ ((passes daemon settings limit worker).outcome = .ok .stopped → last.stop = true) := by
  have none : ∀ start ∈ ([] : List (Worker σ)), start.stop = false :=
    fun _ member => absurd member List.not_mem_nil
  induction limit generalizing worker with
  | zero => exact absurd rfl finished
  | succ limit ih =>
    cases round daemon settings worker with
    | stopped stop => exact ⟨[], worker, starts_of_stop stop limit, none, fun _ => stop⟩
    | panicked outcome passes_eq =>
      refine ⟨[], worker, starts_of_panic outcome limit, none, fun stopped => ?_⟩
      rw [passes_eq] at stopped
      cases stopped
    | made outcome pauses passes_eq =>
      have going := going_of_passes_eq passes_eq
      rw [passes_eq] at finished ⊢
      obtain ⟨earlier, last, split, goes, stop⟩ := ih finished
      refine ⟨worker :: earlier, last, ?_, List.forall_mem_cons.mpr ⟨going, goes⟩, stop⟩
      rw [starts_of_going going outcome, split, List.cons_append]

end Worker

/-! ## Runs behind histories -/

namespace History

variable {σ : Type} (daemon : Daemon σ) (settings : DeliverySettings)

/-- **A history can go on as a run does** that begins where it ends: with the same worker in the
end, and with everything in its trace but the pauses. -/
theorem exists_going (limit : Nat) (history : History σ) :
    ∃ more : List (Action σ),
      let later := run daemon settings more history
      let progress := history.worker.passes daemon settings limit
      later.worker = progress.worker
        ∧ ∀ {α : Type} {pick : Occurrence → Option α},
          (∀ duration, pick (.paused duration) = none) →
          later.trace.filterMap pick = (history.trace ++ progress.trace).filterMap pick := by
  induction limit generalizing history with
  | zero =>
    refine ⟨[], rfl, fun _ => ?_⟩
    exact congrArg _ (List.append_nil history.trace).symm
  | succ limit ih =>
    let next := history.act daemon settings .pass
    have grown : next.trace = history.trace ++ (history.worker.pass daemon settings).trace :=
      flatMap_of_deeds Deed.trace (show next.deeds = history.deeds ++ [_] from rfl)
    cases Worker.round daemon settings history.worker with
    | stopped stop passes_eq =>
      refine ⟨[], ?_⟩
      rw [passes_eq]
      refine ⟨rfl, fun _ => ?_⟩
      exact congrArg _ (List.append_nil history.trace).symm
    | panicked outcome passes_eq =>
      refine ⟨[.pass], ?_⟩
      rw [passes_eq]
      exact ⟨rfl, fun _ => congrArg _ grown⟩
    | made outcome pauses passes_eq =>
      obtain ⟨more, worker, traces⟩ := ih next
      refine ⟨.pass :: more, ?_⟩
      rw [passes_eq]
      refine ⟨worker, fun {α pick} silent => ?_⟩
      have paused : (pauses.map Occurrence.paused).filterMap pick = [] := by
        rw [List.filterMap_map, List.filterMap_eq_nil_iff]
        exact fun duration _ => silent duration
      have later := traces silent
      rw [grown] at later
      simp only [Progress.after, List.filterMap_append, paused, List.append_nil] at later ⊢
      rw [← List.append_assoc]
      exact later

/-- What is picked out of a history and of a run behind it is picked out of some longer history,
unless it is a pause or a report of the run itself. -/
theorem exists_run_of_runFor (state : σ) (actions : List (Action σ)) (limit : Nat) :
    ∃ more : List (Action σ),
      let history := run daemon settings actions (fresh settings state)
      let progress := history.worker.runFor daemon settings limit
      let later := run daemon settings (actions ++ more) (fresh settings state)
      later.worker = progress.worker
        ∧ ∀ {α : Type} {pick : Occurrence → Option α},
          (∀ duration, pick (.paused duration) = none) →
          (∀ connectTimeout idleInterval,
            pick (.noted (.workerStarted connectTimeout idleInterval)) = none) →
          (∀ pending, pick (.noted (.workerStopped pending)) = none) →
          (history.trace ++ progress.trace).filterMap pick = later.trace.filterMap pick := by
  obtain ⟨more, worker, traces⟩ :=
    exists_going daemon settings limit (run daemon settings actions (fresh settings state))
  refine ⟨more, ?_⟩
  intro history progress later
  have joined : later = run daemon settings more history := List.foldl_append
  rw [joined]
  refine ⟨worker, fun {α pick} unpaused started stopped => ?_⟩
  have closes : (Worker.closing (history.worker.passes daemon settings limit)).filterMap pick
      = [] := by
    unfold Worker.closing
    split
    · exact List.filterMap_cons_none (stopped _)
    · rfl
  have begins : ([.noted (Worker.startNotice settings)] : Trace).filterMap pick = [] :=
    List.filterMap_cons_none (started _ _)
  have parts : progress.trace = [.noted (Worker.startNotice settings)]
      ++ ((history.worker.passes daemon settings limit).trace
        ++ Worker.closing (history.worker.passes daemon settings limit)) := rfl
  rw [traces unpaused, parts]
  simp only [List.filterMap_append, begins, closes, List.nil_append, List.append_nil]
  rfl

end History

end JobHooks
