import JobHooks.Proofs.Ledger

/-!
# Stopping

The request to stop can be given before a run, during a poll or during any call, and the worker looks
for it only before a pass.  Suppose that it is given and not taken back.  Then the pass in which it
was given is the last one: no poll follows, what is still taken and called for is what was waiting
when that pass had polled, and then the run ends.

`Worker.exists_pass_at` finds the pass in which something happened, and `Worker.passes_of_stopping`
says that nothing follows a pass in which the request to stop was given.  `Worker.stops_safely` puts
the two together and accounts for every event: what is not settled is waiting when the run has ended,
and is counted in its last report.  Only a panic can lose events, and only events of the last batch.
-/

namespace JobHooks

set_option autoImplicit false

/-! ## What others did to the request to stop -/

namespace Occurrence

/-- What became of the request to stop while something happened, if anything. -/
def stop? : Occurrence → Option Bool
  | .polled _ meanwhile _ => meanwhile.stop?
  | .called attempt => attempt.meanwhile.stop?
  | .taken _ | .noted _ | .paused _ => none

/-- The panic that ended a poll or a call, if one did. -/
def panic? : Occurrence → Option Panic
  | .polled _ _ (.error panic) => some panic
  | .called { answer := .error panic, .. } => some panic
  | _ => none

theorem panic?_called {attempt : Attempt} {panic : Panic}
    (answer : attempt.answer = .error panic) : (called attempt).panic? = some panic := by
  cases attempt
  cases answer
  rfl

/-- Whether something is a report or a pause. -/
def quiet : Occurrence → Bool
  | .noted _ | .paused _ => true
  | .polled _ _ _ | .taken _ | .called _ => false

end Occurrence

namespace Trace

/-- The request to stop after everything that happened. -/
def stopAfter (stop : Bool) (trace : Trace) : Bool :=
  trace.foldl (fun stop occurrence => occurrence.stop?.getD stop) stop

/-- The request to stop is given at a moment, and is not taken back later. -/
def StopGiven (moment : Occurrence) (later : Trace) : Prop :=
  moment.stop? = some true ∧ ∀ occurrence ∈ later, occurrence.stop? ≠ some false

theorem stopAfter_append (earlier later : Trace) (stop : Bool) :
    (earlier ++ later).stopAfter stop = later.stopAfter (earlier.stopAfter stop) :=
  List.foldl_append

/-- A request that is not taken back stays in force. -/
theorem stopAfter_true {trace : Trace}
    (kept : ∀ occurrence ∈ trace, occurrence.stop? ≠ some false) :
    trace.stopAfter true = true := by
  induction trace with
  | nil => rfl
  | cons occurrence trace ih =>
    obtain ⟨now, later⟩ := List.forall_mem_cons.mp kept
    have still : occurrence.stop?.getD true = true := by
      cases changed : occurrence.stop? with
      | none => rfl
      | some stop =>
        rw [changed] at now
        exact eq_true_of_ne_false fun taken => now (congrArg some taken)
    rw [stopAfter, List.foldl_cons, still]
    exact ih later

/-- A request that is given and not taken back is in force in the end. -/
theorem StopGiven.stopAfter {moment : Occurrence} {later : Trace} (given : StopGiven moment later)
    (earlier : Trace) (stop : Bool) : (earlier ++ moment :: later).stopAfter stop = true := by
  have now : ∀ before, moment.stop?.getD before = true := fun before => by rw [given.1]; rfl
  rw [Trace.stopAfter, List.foldl_append, List.foldl_cons, now]
  exact stopAfter_true given.2

/-- A request that is not taken back in the long run is not taken back before. -/
theorem StopGiven.of_append {moment : Occurrence} {later rest : Trace}
    (given : StopGiven moment (later ++ rest)) : StopGiven moment later :=
  ⟨given.1, fun occurrence member => given.2 occurrence (List.mem_append_left _ member)⟩

/-- Where nothing is polled, only calls can change the request to stop. -/
theorem stopAfter_of_polls_eq {trace : Trace} (none : trace.polls = []) (stop : Bool) :
    trace.stopAfter stop
      = (trace.attempts.map Attempt.meanwhile).foldl Meanwhile.stopAfter stop := by
  induction trace generalizing stop with
  | nil => rfl
  | cons occurrence trace ih =>
    cases occurrence with
    | polled => exact absurd none (List.cons_ne_nil _ _)
    | taken => exact ih none stop
    | called attempt => exact ih none (attempt.meanwhile.stopAfter stop)
    | noted => exact ih none stop
    | paused => exact ih none stop

/-- A moment in the course of two traces is in the first or in the second. -/
theorem append_eq_split {first second earlier later : Trace} {moment : Occurrence}
    (whole : first ++ second = earlier ++ moment :: later) :
    (∃ behind, first = earlier ++ moment :: behind ∧ later = behind ++ second)
      ∨ ∃ before, earlier = first ++ before ∧ second = before ++ moment :: later := by
  rcases List.append_eq_append_iff.mp whole with ⟨before, front, rest⟩ | ⟨behind, front, rest⟩
  · exact .inr ⟨before, front, rest⟩
  · cases behind with
    | nil => exact .inr ⟨[], by rw [front, List.append_nil, List.append_nil], rest.symm⟩
    | cons head behind =>
      obtain ⟨rfl, rfl⟩ := List.cons.inj rest
      exact .inl ⟨behind, front, rfl⟩

/-! ### Quiet traces -/

/-- Nothing but reports and pauses. -/
def Quiet (trace : Trace) : Prop := ∀ occurrence ∈ trace, occurrence.quiet = true

theorem quiet_noted (notices : List Notice) : Quiet (notices.map .noted) :=
  List.forall_mem_map.mpr fun _ _ => rfl

theorem quiet_paused (pauses : List Nat) : Quiet (pauses.map .paused) :=
  List.forall_mem_map.mpr fun _ _ => rfl

theorem Quiet.append {earlier later : Trace} (quiet : Quiet earlier) (rest : Quiet later) :
    Quiet (earlier ++ later) :=
  List.forall_mem_append.mpr ⟨quiet, rest⟩

/-- What is picked out of a trace one by one is not found in a quiet one. -/
theorem Quiet.filterMap_eq {α : Type} {pick : Occurrence → Option α} {trace : Trace}
    (quiet : Quiet trace) (silent : ∀ occurrence, occurrence.quiet = true → pick occurrence = none) :
    trace.filterMap pick = [] :=
  List.filterMap_eq_nil_iff.mpr fun occurrence member => silent occurrence (quiet occurrence member)

/-- What is gathered from a trace is not found in a quiet one. -/
theorem Quiet.flatMap_eq {α : Type} {gather : Occurrence → List α} {trace : Trace}
    (quiet : Quiet trace) (silent : ∀ occurrence, occurrence.quiet = true → gather occurrence = []) :
    trace.flatMap gather = [] :=
  List.flatMap_eq_nil_iff.mpr fun occurrence member => silent occurrence (quiet occurrence member)

section

variable {trace : Trace} (quiet : Quiet trace)
include quiet

theorem Quiet.polls_eq : trace.polls = [] := by
  refine quiet.filterMap_eq fun occurrence silent => ?_
  cases occurrence <;> trivial

theorem Quiet.attempts_eq : trace.attempts = [] := by
  refine quiet.filterMap_eq fun occurrence silent => ?_
  cases occurrence <;> trivial

theorem Quiet.taken_eq : trace.taken = [] := by
  refine quiet.flatMap_eq fun occurrence silent => ?_
  cases occurrence <;> trivial

theorem Quiet.arrived_eq : trace.arrived = [] := by
  refine quiet.flatMap_eq fun occurrence silent => ?_
  cases occurrence <;> trivial

theorem Quiet.stopAfter_eq (stop : Bool) : trace.stopAfter stop = stop := by
  rw [stopAfter_of_polls_eq quiet.polls_eq, quiet.attempts_eq]
  rfl

/-- The request to stop is not given in a quiet trace. -/
theorem Quiet.not_stopGiven {before behind later : Trace} {moment : Occurrence}
    (whole : trace = before ++ moment :: behind) : ¬StopGiven moment later := by
  intro given
  have silent : moment.quiet = true :=
    quiet moment (whole ▸ List.mem_append_right _ List.mem_cons_self)
  have asked := given.1
  cases moment <;> trivial

end

/-! ### Confined traces -/

/-- Nothing is polled in the course of a trace, and what is taken and called for is of a batch, each
event of it at most once. -/
structure Confined (batch : List Event) (trace : Trace) : Prop where
  polls_eq : trace.polls = []
  taken_suffix : trace.taken <:+ batch
  called_sublist : (trace.attempts.map Attempt.event).Sublist batch

theorem Quiet.confined {trace : Trace} (quiet : Quiet trace) (batch : List Event) :
    Confined batch trace where
  polls_eq := quiet.polls_eq
  taken_suffix := by
    rw [quiet.taken_eq]
    exact List.nil_suffix
  called_sublist := by
    rw [quiet.attempts_eq]
    exact List.nil_sublist _

section

variable {batch : List Event} {earlier later : Trace}

/-- What is confined stays so without its beginning. -/
theorem Confined.of_append (confined : Confined batch (earlier ++ later)) :
    Confined batch later where
  polls_eq := by
    have none := confined.polls_eq
    rw [polls_append] at none
    exact (List.append_eq_nil_iff.mp none).2
  taken_suffix := by
    have whole := confined.taken_suffix
    rw [taken_append] at whole
    exact (List.suffix_append _ _).trans whole
  called_sublist := by
    have whole := confined.called_sublist
    rw [attempts_append, List.map_append] at whole
    exact (List.sublist_append_right _ _).trans whole

theorem Confined.after_quiet (confined : Confined batch later) (quiet : Quiet earlier) :
    Confined batch (earlier ++ later) where
  polls_eq := by
    rw [polls_append, quiet.polls_eq]
    exact confined.polls_eq
  taken_suffix := by
    rw [taken_append, quiet.taken_eq]
    exact confined.taken_suffix
  called_sublist := by
    rw [attempts_append, quiet.attempts_eq]
    exact confined.called_sublist

theorem Confined.append_quiet (confined : Confined batch earlier) (quiet : Quiet later) :
    Confined batch (earlier ++ later) where
  polls_eq := by
    rw [polls_append, quiet.polls_eq, List.append_nil]
    exact confined.polls_eq
  taken_suffix := by
    rw [taken_append, quiet.taken_eq, List.append_nil]
    exact confined.taken_suffix
  called_sublist := by
    rw [attempts_append, quiet.attempts_eq, List.append_nil]
    exact confined.called_sublist

end

end Trace

namespace Progress

variable {σ α : Type}

theorem after_after (first second : Trace) (progress : Progress σ α) :
    (progress.after second).after first = progress.after (first ++ second) := by
  simp only [after, List.append_assoc]

end Progress

namespace Worker

variable {σ : Type} {daemon : Daemon σ} {settings : DeliverySettings} {worker : Worker σ}

/-! ## One pass -/

/-- What follows the poll of a pass that sends a batch. -/
theorem Sent.confined {batch : List Event} {start : Worker σ} {progress : Progress σ PassOutcome}
    {done : List Attempt} {finish : Finish}
    (sent : Sent daemon settings batch 0 0 start progress done finish) :
    Trace.Confined batch
      (.taken batch :: .noted (.dequeued batch.length) :: progress.trace) where
  polls_eq := sent.polls_eq
  taken_suffix := by
    have all : Trace.taken (.taken batch :: .noted (.dequeued batch.length) :: progress.trace)
        = batch ++ Trace.taken progress.trace := rfl
    have nothing : Trace.taken progress.trace = [] := sent.taken_eq
    rw [nothing, List.append_nil] at all
    exact ⟨[], all⟩
  called_sublist := by
    have first : progress.trace.attempts.map Attempt.event
        <+: (exchange daemon settings batch start).1.map Attempt.event :=
      sent.attempts_prefix.map _
    rw [map_event_exchange] at first
    exact first.sublist

/-- Nothing happens in a pass, or it begins with a poll.  What it takes and calls for behind that is
what was waiting when it had polled. -/
theorem Course.begins {progress : Progress σ PassOutcome}
    (course : Course daemon settings worker progress) :
    progress.trace = [] ∨ ∃ (notices : List Notice) (timeout : Nat) (meanwhile : Meanwhile)
      (answer : Except Panic Bool) (rest : Trace),
      progress.trace = notices.map .noted ++ .polled timeout meanwhile answer :: rest
        ∧ Trace.Confined (polled daemon worker).queue.toList rest := by
  cases course with
  | stopped => exact .inl rfl
  | panicked => exact .inr ⟨_, _, _, _, _, rfl, (Trace.quiet_noted []).confined _⟩
  | disconnected => exact .inr ⟨_, _, _, _, _, rfl, (Trace.quiet_noted _).confined _⟩
  | idle => exact .inr ⟨_, _, _, _, _, rfl, (Trace.quiet_noted _).confined _⟩
  | sent _ _ _ sent =>
    exact .inr ⟨_, _, _, _, _, List.append_assoc _ _ _,
      sent.confined.after_quiet (Trace.quiet_noted _)⟩

/-- Behind the moment at which the request to stop is given, a pass is confined to its batch. -/
theorem Course.confined {progress : Progress σ PassOutcome}
    (course : Course daemon settings worker progress) {before behind later : Trace}
    {moment : Occurrence} (whole : progress.trace = before ++ moment :: behind)
    (given : Trace.StopGiven moment later) :
    Trace.Confined (polled daemon worker).queue.toList behind := by
  rcases course.begins with nothing | ⟨notices, _, _, _, rest, same, confined⟩
  · rw [nothing] at whole
    exact absurd whole.symm (List.append_ne_nil_of_right_ne_nil _ (List.cons_ne_nil _ _))
  · rw [same] at whole
    rcases Trace.append_eq_split whole with ⟨_, early, -⟩ | ⟨between, -, found⟩
    · exact absurd given ((Trace.quiet_noted notices).not_stopGiven early)
    · -- The moment is the poll itself, or it is behind the poll.
      cases between with
      | nil =>
        rw [(List.cons.inj found).2] at confined
        exact confined
      | cons _ between =>
        have tail : rest = between ++ ([moment] ++ behind) := (List.cons.inj found).2
        rw [← List.append_assoc] at tail
        rw [tail] at confined
        exact confined.of_append

/-- A pass takes nothing but its batch. -/
theorem Course.taken_suffix {progress : Progress σ PassOutcome}
    (course : Course daemon settings worker progress) :
    progress.trace.taken <:+ (polled daemon worker).queue.toList := by
  rcases course.begins with nothing | ⟨notices, _, _, _, rest, same, confined⟩
  · rw [nothing]
    exact List.nil_suffix
  · rw [same, Trace.taken_append, Trace.taken_map_noted]
    exact confined.taken_suffix

/-- The request to stop after a pass is what the last of those who changed it made of it. -/
theorem Course.stopAfter_eq {progress : Progress σ PassOutcome}
    (course : Course daemon settings worker progress) :
    progress.worker.stop = progress.trace.stopAfter worker.stop := by
  have polled_eq : ∀ reported : List Notice,
      (pollTrace daemon reported worker).stopAfter worker.stop = (polled daemon worker).stop := by
    intro reported
    rw [pollTrace, Trace.stopAfter_append, (Trace.quiet_noted _).stopAfter_eq]
    exact (Trace.quiet_noted reported).stopAfter_eq _
  cases course with
  | stopped => rfl
  | panicked => exact (polled_eq _).symm
  | disconnected => exact (polled_eq _).symm
  | idle => exact (polled_eq _).symm
  | @sent _ _ _ progress _ _ sent =>
    have later := sent.stop_eq
    rw [← Trace.stopAfter_of_polls_eq sent.polls_eq] at later
    simp only [goOn, Progress.after, Trace.stopAfter_append, polled_eq]
    exact later

/-- A batch that ends with a panic ends with the call that panicked. -/
theorem getLast?_of_panic {panic : Panic} {batch : List Event} {sent rejected : Nat}
    {start : Worker σ}
    (outcome : (sendInOrder daemon settings batch sent rejected start).outcome = .error panic) :
    ∃ last, (sendInOrder daemon settings batch sent rejected start).trace.getLast? = some last
      ∧ last.panic? = some panic := by
  induction batch generalizing sent rejected start with
  | nil => cases outcome
  | cons event rest ih =>
    cases answer : (reaction daemon settings event start).answer with
    | error other =>
      rw [sendInOrder_of_panic rest sent rejected answer] at outcome ⊢
      obtain ⟨notices, same⟩ := attemptTrace_eq daemon settings event start
      refine ⟨.called (attempt daemon settings event start), ?_, ?_⟩
      · rw [same, List.getLast?_concat]
      · cases outcome
        exact Occurrence.panic?_called answer
    | ok result =>
      cases result with
      | ok =>
        rw [sendInOrder_of_accepted rest sent rejected answer] at outcome ⊢
        obtain ⟨last, found, panicked⟩ := ih outcome
        refine ⟨last, ?_, panicked⟩
        rw [Progress.after, List.getLast?_append, found]
        rfl
      | error status =>
        cases transient : status.isTransient with
        | false =>
          rw [sendInOrder_of_rejected rest sent rejected answer transient] at outcome ⊢
          obtain ⟨last, found, panicked⟩ := ih outcome
          refine ⟨last, ?_, panicked⟩
          rw [Progress.after, List.getLast?_append, found]
          rfl
        | true =>
          rw [sendInOrder_of_unavailable rest sent rejected answer transient] at outcome
          cases outcome

/-- A pass that panics ends with the poll or the call that panicked. -/
theorem getLast?_of_pass_panic {panic : Panic}
    (outcome : (pass daemon settings worker).outcome = .error panic) :
    ∃ last, (pass daemon settings worker).trace.getLast? = some last
      ∧ last.panic? = some panic := by
  cases stop : worker.stop with
  | true =>
    rw [pass_of_stop stop] at outcome
    cases outcome
  | false =>
    cases answer : (polling daemon worker).answer with
    | error other =>
      rw [pass_of_panic stop answer] at outcome ⊢
      cases outcome
      refine ⟨.polled worker.monitor.timeout (worker.meanwhile (polling daemon worker).effects)
        (.error panic), ?_, rfl⟩
      rw [pollTrace, answer, List.map_nil, List.getLast?_concat]
    | ok connected =>
      cases connected with
      | false =>
        rw [pass_of_disconnected stop answer] at outcome
        cases outcome
      | true =>
        by_cases nothing : (polled daemon worker).queue.toList = []
        · rw [pass_of_idle stop answer nothing] at outcome
          cases outcome
        · rw [pass_of_waiting stop answer nothing] at outcome ⊢
          obtain ⟨last, found, panicked⟩ := getLast?_of_panic outcome
          refine ⟨last, ?_, panicked⟩
          rw [goOn, Progress.after, Progress.after, List.getLast?_append, List.getLast?_append,
            found]
          rfl

/-- Only a worker that was asked to stop makes a pass that is stopped. -/
theorem Course.outcome_ne {progress : Progress σ PassOutcome}
    (course : Course daemon settings worker progress) (going : worker.stop = false) :
    progress.outcome ≠ .ok .stopped := by
  cases course with
  | stopped stop => exact absurd (going.symm.trans stop) Bool.false_ne_true
  | panicked | disconnected | idle => simp
  | @sent _ _ _ progress _ finish sent =>
    have outcome : (goOn daemon worker progress).outcome = _ := sent.outcome_eq
    rw [outcome]
    cases finish <;> simp [Finish.outcome]

/-- A pass neither loses an event nor gains one. -/
theorem Ledger.balance {before after : Worker σ} {deed : Deed} {early kept : List Event}
    {done : List Attempt} {finish : Finish}
    (ledger : Ledger before deed after early kept done finish) :
    (before.queue.toList ++ deed.arrived).Perm
      (Attempts.settled deed.attempts ++ after.queue.toList ++ finish.lost) := by
  rw [List.perm_iff_count]
  intro event
  have split := congrArg (List.count event) ledger.waiting_split
  rw [ledger.settled_eq, ledger.arrived_eq, ledger.queue_eq]
  simp only [List.count_append] at split ⊢
  omega

/-! ## Passes -/

/-- How passes begin: the worker was asked to stop, or a pass panics, or one is made and others may
follow after a pause. -/
inductive Round (daemon : Daemon σ) (settings : DeliverySettings) (worker : Worker σ) : Prop
  | stopped (stop : worker.stop = true)
      (passes_eq : ∀ limit, passes daemon settings (limit + 1) worker = ⟨.ok .stopped, [], worker⟩)
  | panicked {panic : Panic} (outcome : (pass daemon settings worker).outcome = .error panic)
      (passes_eq : ∀ limit, passes daemon settings (limit + 1) worker
        = ⟨.error panic, (pass daemon settings worker).trace, (pass daemon settings worker).worker⟩)
  | made {outcome : PassOutcome} (outcome : (pass daemon settings worker).outcome = .ok outcome)
      (pauses : List Nat)
      (passes_eq : ∀ limit, passes daemon settings (limit + 1) worker
        = (passes daemon settings limit (pass daemon settings worker).worker).after
          ((pass daemon settings worker).trace ++ pauses.map .paused))

theorem round (daemon : Daemon σ) (settings : DeliverySettings) (worker : Worker σ) :
    Round daemon settings worker := by
  cases stop : worker.stop with
  | true =>
    refine .stopped stop fun limit => ?_
    rw [passes, pass_of_stop stop]
  | false =>
    have going := (course_of_pass daemon settings worker).outcome_ne stop
    cases outcome : (pass daemon settings worker).outcome with
    | error panic =>
      refine .panicked outcome fun limit => ?_
      simp only [passes, outcome]
    | ok result =>
      refine .made outcome (result.pause settings).toList fun limit => ?_
      cases result with
      | stopped => exact absurd outcome going
      | disconnected | idle | drained | deferred => simp only [passes, outcome]

/-- Some passes and then others. -/
theorem passes_add {count : Nat}
    (unfinished : (passes daemon settings count worker).outcome = .ok .unfinished) (more : Nat) :
    passes daemon settings (count + more) worker
      = (passes daemon settings more (passes daemon settings count worker).worker).after
          (passes daemon settings count worker).trace := by
  induction count generalizing worker with
  | zero => rw [Nat.zero_add]; rfl
  | succ count ih =>
    rw [Nat.add_right_comm]
    cases round daemon settings worker with
    | stopped _ passes_eq =>
      rw [passes_eq] at unfinished
      cases unfinished
    | panicked _ passes_eq =>
      rw [passes_eq] at unfinished
      cases unfinished
    | made _ pauses passes_eq =>
      rw [passes_eq] at unfinished
      rw [passes_eq, passes_eq, ih unfinished, Progress.after_after]
      rfl

/-- Two accounts, of which the second begins with what the first left waiting. -/
theorem balance_trans {waiting arrived between moreArrived left : List Event}
    {attempts moreAttempts : List Attempt}
    (first : (waiting ++ arrived).Perm (Attempts.settled attempts ++ between))
    (second : (between ++ moreArrived).Perm (Attempts.settled moreAttempts ++ left)) :
    (waiting ++ (arrived ++ moreArrived)).Perm
      (Attempts.settled (attempts ++ moreAttempts) ++ left) := by
  rw [Attempts.settled_append, ← List.append_assoc, List.append_assoc (Attempts.settled attempts)]
  refine (first.append_right moreArrived).trans ?_
  rw [List.append_assoc]
  exact second.append_left _

/-- Passes neither lose an event nor gain one as long as none panics. -/
theorem balance_passes {count : Nat} {ending : Ending}
    (unbroken : (passes daemon settings count worker).outcome = .ok ending) :
    let progress := passes daemon settings count worker
    (worker.queue.toList ++ progress.trace.arrived).Perm
      (Attempts.settled progress.trace.attempts ++ progress.worker.queue.toList) := by
  induction count generalizing worker with
  | zero => exact .of_eq (List.append_nil _)
  | succ count ih =>
    cases round daemon settings worker with
    | stopped _ passes_eq =>
      rw [passes_eq]
      exact .of_eq (List.append_nil _)
    | panicked _ passes_eq =>
      rw [passes_eq] at unbroken
      cases unbroken
    | made outcome pauses passes_eq =>
      rw [passes_eq] at unbroken ⊢
      have later := ih unbroken
      obtain ⟨early, kept, done, finish, passed⟩ := exists_passed daemon settings worker
      have now := passed.balance
      have nothing : finish.lost = [] := passed.nothing_lost (by rw [outcome]; rfl)
      rw [nothing, List.append_nil] at now
      have quiet := Trace.quiet_paused pauses
      simp only [Progress.after, Trace.arrived_append, Trace.attempts_append, quiet.arrived_eq,
        quiet.attempts_eq, List.append_nil]
      exact balance_trans now later

/-- **What others did to the request to stop happened in the course of a pass.** -/
theorem exists_pass_at {limit : Nat} {earlier later : Trace} {moment : Occurrence}
    (whole : (passes daemon settings limit worker).trace = earlier ++ moment :: later)
    (given : Trace.StopGiven moment later) :
    ∃ count more, limit = count + (more + 1)
      ∧ (passes daemon settings count worker).outcome = .ok .unfinished
      ∧ ∃ before behind rest,
        earlier = (passes daemon settings count worker).trace ++ before
          ∧ (pass daemon settings (passes daemon settings count worker).worker).trace
            = before ++ moment :: behind
          ∧ later = behind ++ rest
          ∧ (passes daemon settings (more + 1) (passes daemon settings count worker).worker).trace
            = (pass daemon settings (passes daemon settings count worker).worker).trace ++ rest := by
  induction limit generalizing worker earlier with
  | zero => exact absurd whole.symm (List.append_ne_nil_of_right_ne_nil _ (List.cons_ne_nil _ _))
  | succ limit ih =>
    cases round daemon settings worker with
    | stopped _ passes_eq =>
      rw [passes_eq] at whole
      exact absurd whole.symm (List.append_ne_nil_of_right_ne_nil _ (List.cons_ne_nil _ _))
    | panicked _ passes_eq =>
      have first : (passes daemon settings (limit + 1) worker).trace
          = (pass daemon settings worker).trace := by rw [passes_eq]
      exact ⟨0, limit, (Nat.zero_add _).symm, rfl, earlier, later, [], rfl, first.symm.trans whole,
        (List.append_nil _).symm, first.trans (List.append_nil _).symm⟩
    | made _ pauses passes_eq =>
      have first : (passes daemon settings (limit + 1) worker).trace
          = (pass daemon settings worker).trace ++ (pauses.map .paused
            ++ (passes daemon settings limit (pass daemon settings worker).worker).trace) := by
        rw [passes_eq, Progress.after, List.append_assoc]
      rw [first] at whole
      rcases Trace.append_eq_split whole with ⟨behind, here, rest⟩ | ⟨between, before, there⟩
      · exact ⟨0, limit, (Nat.zero_add _).symm, rfl, earlier, behind, _, rfl, here, rest, first⟩
      · rcases Trace.append_eq_split there with ⟨_, pausing, -⟩ | ⟨rest, pausing, there⟩
        · exact absurd given ((Trace.quiet_paused pauses).not_stopGiven pausing)
        · obtain ⟨count, more, same, unfinished, inside, behind, tail, front, split⟩ := ih there
          refine ⟨count + 1, more, by rw [same, Nat.add_right_comm], ?_⟩
          rw [passes_eq]
          refine ⟨unfinished, inside, behind, tail, ?_, split⟩
          rw [before, pausing, front, Progress.after, List.append_assoc, List.append_assoc]

/-- Passes that begin with one in which the request to stop is given: nothing follows it. -/
theorem passes_of_stopping (going : worker.stop = false)
    (asked : (pass daemon settings worker).worker.stop = true) :
    (∃ panic, (pass daemon settings worker).outcome = .error panic
        ∧ ∀ more, passes daemon settings (more + 1) worker
          = ⟨.error panic, (pass daemon settings worker).trace, (pass daemon settings worker).worker⟩)
      ∨ ∃ (outcome : PassOutcome) (pauses : List Nat),
        (pass daemon settings worker).outcome = .ok outcome
          ∧ ∀ more, passes daemon settings (more + 1) worker
            = ⟨.ok (if more = 0 then .unfinished else .stopped),
              (pass daemon settings worker).trace ++ pauses.map .paused,
              (pass daemon settings worker).worker⟩ := by
  cases round daemon settings worker with
  | stopped stop => exact absurd (going.symm.trans stop) Bool.false_ne_true
  | panicked outcome passes_eq => exact .inl ⟨_, outcome, passes_eq⟩
  | made outcome pauses passes_eq =>
    refine .inr ⟨_, pauses, outcome, fun more => ?_⟩
    rw [passes_eq]
    cases more with
    | zero => rw [passes, Progress.after, List.append_nil, if_pos rfl]
    | succ more =>
      rw [passes, pass_of_stop asked, Progress.after, List.append_nil,
        if_neg (Nat.succ_ne_zero more)]

/-- What a run reports behind its passes. -/
theorem exists_closing (progress : Progress σ Ending) :
    ∃ report : List Notice, closing progress = report.map .noted := by
  unfold closing
  split
  · exact ⟨[_], rfl⟩
  · exact ⟨[], rfl⟩

/-- What passes leave in the trace that begin with one in which the request to stop is given, and
what is reported behind them. -/
theorem trace_of_stopping (going : worker.stop = false)
    (asked : (pass daemon settings worker).worker.stop = true) :
    ∃ pauses : List Nat,
      (∀ more, (passes daemon settings (more + 1) worker).trace
          = (pass daemon settings worker).trace ++ pauses.map .paused
        ∧ (passes daemon settings (more + 1) worker).worker = (pass daemon settings worker).worker)
      ∧ ∀ more extra, ∃ report : List Notice,
        closing (passes daemon settings (more + extra + 1) worker)
          = closing (passes daemon settings (more + 1) worker) ++ report.map .noted := by
  rcases passes_of_stopping going asked with ⟨panic, -, ends⟩ | ⟨outcome, pauses, -, ends⟩
  · refine ⟨[], fun more => ?_, fun more extra => ⟨[], ?_⟩⟩
    · rw [ends, List.map_nil, List.append_nil]
      exact ⟨rfl, rfl⟩
    · rw [ends, ends]
      rfl
  · refine ⟨pauses, fun more => ?_, fun more extra => ?_⟩
    · rw [ends]
      exact ⟨rfl, rfl⟩
    · cases more with
      | zero =>
        have none : closing (passes daemon settings (0 + 1) worker) = [] := by
          rw [ends, if_pos rfl]
          rfl
        rw [none]
        exact exists_closing _
      | succ more =>
        refine ⟨[], ?_⟩
        rw [ends, ends, Nat.add_right_comm, if_neg (Nat.succ_ne_zero _),
          if_neg (Nat.succ_ne_zero _)]
        exact (List.append_nil _).symm

/-! ## Runs -/

/-- A run has ended.  Either it has reported how much is left, and whatever was waiting or arrived is
settled or waiting.  Or its last poll or call panicked, and some of the last batch is lost. -/
inductive Ended (worker : Worker σ) (batch : List Event) (run : Progress σ Ending) : Prop
  | stopped (outcome_eq : run.outcome = .ok .stopped)
      (reported : run.trace.getLast?
        = some (.noted (.workerStopped run.worker.queue.toList.length)))
      (balance : (worker.queue.toList ++ run.trace.arrived).Perm
        (Attempts.settled run.trace.attempts ++ run.worker.queue.toList))
  | broken (panic : Panic) (last : Occurrence) (lost : List Event)
      (outcome_eq : run.outcome = .error panic)
      (last_eq : run.trace.getLast? = some last) (panicked : last.panic? = some panic)
      (lost_suffix : lost <:+ batch)
      (balance : (worker.queue.toList ++ run.trace.arrived).Perm
        (Attempts.settled run.trace.attempts ++ run.worker.queue.toList ++ lost))

/-- The reports of a run add nothing to what arrived and was called for. -/
theorem account_runFor (daemon : Daemon σ) (settings : DeliverySettings) (limit : Nat)
    (worker : Worker σ) :
    (runFor daemon settings limit worker).trace.arrived
        = (passes daemon settings limit worker).trace.arrived
      ∧ (runFor daemon settings limit worker).trace.attempts
        = (passes daemon settings limit worker).trace.attempts := by
  obtain ⟨report, closed⟩ := exists_closing (passes daemon settings limit worker)
  have start := Trace.quiet_noted [startNotice settings]
  have behind := Trace.quiet_noted report
  have parts : (runFor daemon settings limit worker).trace = [startNotice settings].map .noted
      ++ ((passes daemon settings limit worker).trace ++ report.map .noted) := by
    rw [← closed]
    rfl
  rw [parts, Trace.arrived_append, Trace.arrived_append, Trace.attempts_append,
    Trace.attempts_append, start.arrived_eq, start.attempts_eq, behind.arrived_eq,
    behind.attempts_eq, List.append_nil, List.append_nil]
  exact ⟨rfl, rfl⟩

/-- A run that has not ended reports nothing behind its passes. -/
theorem trace_of_unfinished {count : Nat}
    (unfinished : (passes daemon settings count worker).outcome = .ok .unfinished) :
    (runFor daemon settings count worker).trace
      = .noted (startNotice settings) :: (passes daemon settings count worker).trace := by
  have nothing : closing (passes daemon settings count worker) = [] := by
    rw [closing, unfinished]
  rw [runFor, nothing, List.append_nil]

/-- A run of some passes and then others. -/
theorem runFor_add {count : Nat}
    (unfinished : (passes daemon settings count worker).outcome = .ok .unfinished) (more : Nat) :
    let later := passes daemon settings more (runFor daemon settings count worker).worker
    (runFor daemon settings (count + more) worker).worker = later.worker
      ∧ (runFor daemon settings (count + more) worker).trace
        = (runFor daemon settings count worker).trace ++ (later.trace ++ closing later) := by
  intro later
  rw [trace_of_unfinished unfinished, runFor, passes_add unfinished]
  exact ⟨rfl, List.append_assoc (_ :: _) _ _⟩

/-- What others did to the request to stop happened in the course of the passes of a run. -/
theorem passes_split {limit : Nat} {earlier later : Trace} {moment : Occurrence}
    (whole : (runFor daemon settings limit worker).trace = earlier ++ moment :: later)
    (given : Trace.StopGiven moment later) :
    ∃ inside behind, earlier = .noted (startNotice settings) :: inside
      ∧ (passes daemon settings limit worker).trace = inside ++ moment :: behind
      ∧ later = behind ++ closing (passes daemon settings limit worker) := by
  obtain ⟨report, closed⟩ := exists_closing (passes daemon settings limit worker)
  have start := Trace.quiet_noted [startNotice settings]
  have parts : [startNotice settings].map .noted
      ++ ((passes daemon settings limit worker).trace
        ++ closing (passes daemon settings limit worker)) = earlier ++ moment :: later := whole
  rcases Trace.append_eq_split parts with ⟨_, early, -⟩ | ⟨inside, front, rest⟩
  · exact absurd given (start.not_stopGiven early)
  · rcases Trace.append_eq_split rest with ⟨behind, here, late⟩ | ⟨_, -, late⟩
    · exact ⟨inside, behind, front, here, late⟩
    · rw [closed] at late
      exact absurd given ((Trace.quiet_noted report).not_stopGiven late)

/-- The events are where they should be when passes have ended with one more pass. -/
theorem balance_last {count : Nat}
    (unfinished : (passes daemon settings count worker).outcome = .ok .unfinished) :
    let front := passes daemon settings count worker
    let last := pass daemon settings front.worker
    ∃ lost, lost <:+ (polled daemon front.worker).queue.toList
      ∧ ((Deed.passed last.outcome last.trace).broken = false → lost = [])
      ∧ (worker.queue.toList ++ (front.trace.arrived ++ last.trace.arrived)).Perm
        (Attempts.settled (front.trace.attempts ++ last.trace.attempts)
          ++ last.worker.queue.toList ++ lost)
      ∧ Attempts.arrived last.trace.attempts ++ (Deed.passed last.outcome last.trace).putOff
        <:+ last.worker.queue.toList := by
  intro front last
  have earlier := balance_passes unfinished
  obtain ⟨early, kept, done, finish, passed⟩ := exists_passed daemon settings front.worker
  refine ⟨finish.lost, ?_, passed.nothing_lost, ?_, ?_⟩
  · have taken : last.trace.taken = done.map Attempt.event ++ (finish.returned ++ finish.lost) :=
      passed.batch_eq.trans (congrArg _ finish.unsettled_eq)
    refine List.IsSuffix.trans ?_ (course_of_pass daemon settings front.worker).taken_suffix
    rw [taken, ← List.append_assoc]
    exact List.suffix_append _ _
  · rw [List.append_assoc]
    refine balance_trans earlier ?_
    rw [← List.append_assoc]
    exact passed.balance
  · have queue : last.worker.queue.toList = _ := passed.queue_eq
    rw [queue, passed.putOff_eq, List.append_assoc]
    exact List.suffix_append _ _

/-- **A run ends behind the pass in which the request to stop is given.** -/
theorem ended_of_stopping {count : Nat}
    (unfinished : (passes daemon settings count worker).outcome = .ok .unfinished)
    (going : (passes daemon settings count worker).worker.stop = false)
    (asked : (pass daemon settings (passes daemon settings count worker).worker).worker.stop = true)
    (more : Nat) :
    Ended worker (polled daemon (passes daemon settings count worker).worker).queue.toList
      (runFor daemon settings (count + (more + 2)) worker) := by
  obtain ⟨lost, suffix, nothing, balance, -⟩ := balance_last unfinished
  have added := passes_add unfinished (more + 2)
  obtain ⟨arrived, attempts⟩ := account_runFor daemon settings (count + (more + 2)) worker
  rcases passes_of_stopping going asked with ⟨panic, broken, ends⟩ | ⟨outcome, pauses, made, ends⟩
  · rw [ends] at added
    obtain ⟨last, found, panicked⟩ := getLast?_of_pass_panic broken
    refine .broken panic last lost ?_ ?_ panicked suffix ?_
    · rw [runFor, added]
      rfl
    · simp only [runFor, added, Progress.after, closing, List.append_nil]
      rw [List.getLast?_cons, List.getLast?_append, found]
      rfl
    · rw [arrived, attempts, runFor, added]
      simp only [Progress.after, Trace.arrived_append, Trace.attempts_append]
      exact balance
  · rw [ends, if_neg (Nat.succ_ne_zero more)] at added
    rw [nothing (by rw [made]; rfl), List.append_nil] at balance
    have quiet := Trace.quiet_paused pauses
    refine .stopped ?_ ?_ ?_
    · rw [runFor, added]
      rfl
    · simp only [runFor, added, Progress.after, closing]
      rw [List.getLast?_concat]
      rfl
    · rw [arrived, attempts, runFor, added]
      simp only [Progress.after, Trace.arrived_append, Trace.attempts_append, quiet.arrived_eq,
        quiet.attempts_eq, List.append_nil]
      exact balance

/-- A run that goes on longer behind the pass in which the request to stop is given has the same
trace, but for what it reports in the end. -/
theorem runFor_extends {count : Nat}
    (unfinished : (passes daemon settings count worker).outcome = .ok .unfinished)
    (going : (passes daemon settings count worker).worker.stop = false)
    (asked : (pass daemon settings (passes daemon settings count worker).worker).worker.stop = true)
    (more extra : Nat) :
    ∃ report : List Notice,
      (runFor daemon settings (count + (more + extra + 1)) worker).trace
        = (runFor daemon settings (count + (more + 1)) worker).trace ++ report.map .noted := by
  obtain ⟨pauses, same, reports⟩ := trace_of_stopping going asked
  obtain ⟨report, closes⟩ := reports more extra
  have start : (runFor daemon settings count worker).worker
      = (passes daemon settings count worker).worker := rfl
  refine ⟨report, ?_⟩
  rw [(runFor_add unfinished _).2, (runFor_add unfinished _).2, start, (same _).1, (same _).1,
    closes]
  simp only [List.append_assoc]

/-- **Stopping is safe**, whatever others do while the worker waits for the daemon.  A worker that
was asked to stop before the run does nothing but report how much is left.  If the request is given
later, at a moment in the course of a run, and is not taken back, then that moment is in the course
of a pass that is the last one. -/
theorem stops_safely (daemon : Daemon σ) (settings : DeliverySettings) (worker : Worker σ) :
    (worker.stop = true → ∀ limit, runFor daemon settings (limit + 1) worker
      = ⟨.ok .stopped,
          [.noted (startNotice settings), .noted (.workerStopped worker.queue.toList.length)],
          worker⟩)
      ∧ ∀ (limit : Nat) (earlier later : Trace) (moment : Occurrence),
        (runFor daemon settings limit worker).trace = earlier ++ moment :: later →
        Trace.StopGiven moment later →
        ∃ count < limit,
          let start := (runFor daemon settings count worker).worker
          let last := pass daemon settings start
          let batch := (polled daemon start).queue.toList
          (∃ before behind : Trace,
            earlier = (runFor daemon settings count worker).trace ++ before
              ∧ last.trace = before ++ moment :: behind
              ∧ later.taken = behind.taken ∧ later.attempts = behind.attempts)
            ∧ later.Confined batch
            ∧ ∀ further > limit,
              let run := runFor daemon settings further worker
              (∃ report : List Notice,
                run.trace = earlier ++ moment :: (later ++ report.map .noted))
                ∧ Attempts.arrived last.trace.attempts
                    ++ (Deed.passed last.outcome last.trace).putOff <:+ run.worker.queue.toList
                ∧ Ended worker batch run := by
  refine ⟨fun stop limit => ?_, ?_⟩
  · rw [runFor, passes, pass_of_stop stop]
    rfl
  intro limit earlier later moment whole given
  obtain ⟨inside, follows, rfl, within, rfl⟩ := passes_split whole given
  obtain ⟨count, more, rfl, unfinished, before, behind, rest, rfl, here, rfl, split⟩ :=
    exists_pass_at within given.of_append
  refine ⟨count, Nat.lt_add_of_pos_right (Nat.succ_pos more), ?_⟩
  intro start last batch
  have course : Course daemon settings start last := course_of_pass daemon settings start
  have confined : Trace.Confined batch behind := course.confined here given
  have here : last.trace = before ++ moment :: behind := here
  have going : start.stop = false := by
    refine eq_false_of_ne_true fun stop => ?_
    have nothing : last = ⟨.ok .stopped, [], start⟩ := pass_of_stop stop
    rw [nothing] at here
    exact absurd here.symm (List.append_ne_nil_of_right_ne_nil _ (List.cons_ne_nil _ _))
  have asked : last.worker.stop = true := by
    rw [course.stopAfter_eq, here]
    exact given.of_append.of_append.stopAfter before start.stop
  obtain ⟨pauses, onlyPauses, -⟩ := trace_of_stopping going asked
  obtain ⟨report, closed⟩ := exists_closing (passes daemon settings (count + (more + 1)) worker)
  have paused : rest = pauses.map .paused :=
    List.append_cancel_left (split.symm.trans (onlyPauses more).1)
  have behindQuiet : Trace.Quiet (rest ++ report.map .noted) :=
    paused ▸ (Trace.quiet_paused pauses).append (Trace.quiet_noted report)
  rw [closed, List.append_assoc]
  refine ⟨⟨before, behind, ?_, here, ?_, ?_⟩, confined.append_quiet behindQuiet, ?_⟩
  · rw [trace_of_unfinished unfinished]
    rfl
  · rw [Trace.taken_append, behindQuiet.taken_eq, List.append_nil]
  · rw [Trace.attempts_append, behindQuiet.attempts_eq, List.append_nil]
  · intro further beyond
    obtain ⟨extra, rfl⟩ := Nat.exists_eq_add_of_lt beyond
    obtain ⟨reported, extended⟩ := runFor_extends unfinished going asked more (extra + 1)
    obtain ⟨-, -, -, -, deferred⟩ := balance_last unfinished
    have same : count + (more + 1) + extra + 1 = count + (more + (extra + 1) + 1) := by omega
    rw [same]
    refine ⟨⟨reported, ?_⟩, ?_, ended_of_stopping unfinished going asked (more + extra)⟩
    · rw [extended, whole, closed]
      simp only [List.append_assoc, List.cons_append]
    · rw [(runFor_add unfinished _).1, (onlyPauses _).2]
      exact deferred

/-- The first of three calls brings the request to stop: the second one is still made, and then the
run ends with two of the three events put off. -/
theorem stops_safely_falling :
    let worker := (fresh {} 0).enqueue [.start [], .start [], .start []]
    let trace := (runFor falling {} 1 worker).trace
    ∃ moment, trace = trace.take 6 ++ moment :: trace.drop 7
      ∧ Trace.StopGiven moment (trace.drop 7)
      ∧ Trace.Confined worker.queue.toList (trace.drop 7)
      ∧ Ended worker worker.queue.toList (runFor falling {} 2 worker) := by
  intro worker trace
  have long : 6 < trace.length := by decide
  have whole : trace = trace.take 6 ++ trace.get ⟨6, long⟩ :: trace.drop 7 := by
    conv_lhs => rw [← List.take_append_drop 6 trace]
    exact congrArg _ (List.drop_eq_getElem_cons long)
  have given : Trace.StopGiven (trace.get ⟨6, long⟩) (trace.drop 7) := ⟨rfl, by decide⟩
  obtain ⟨count, less, -, confined, ends⟩ :=
    (stops_safely falling {} worker).2 1 _ _ _ whole given
  obtain rfl : count = 0 := Nat.lt_one_iff.mp less
  exact ⟨_, whole, given, confined, (ends 2 (by decide)).2.2⟩

end Worker

end JobHooks
