import JobHooks.Proofs.Calls

/-!
# No call without a poll

A pass polls once and calls the daemon only behind a poll that was answered with yes.  A call that
finds the daemon unreachable is the last one of its pass, and the worker pauses behind it.  So a
worker that cannot get through asks again before it calls again.

In the trace of a whole run no passes are to be seen.  There, `Trace.Admitted` says of a call that
the last poll before it was answered with yes, and that all calls since then have settled their
events.  It holds of the calls of a pass (`Worker.admitted_pass`) and is not disturbed by what
happens earlier or later (`Trace.Steady`), so that it holds throughout passes
(`Worker.throughout_passes`) and histories (`History.throughout_run`).  `Trace.polled_between` is
what follows for a call that found the daemon unreachable and the next one.
-/

namespace JobHooks

set_option autoImplicit false

namespace Trace

/-! ## Calls and polls in a trace -/

theorem not_mem_of_polls_eq {trace : Trace} (none : trace.polls = []) (timeout : Nat)
    (meanwhile : Meanwhile) (answer : Except Panic Bool) :
    .polled timeout meanwhile answer ∉ trace := by
  intro asked
  have counted : timeout ∈ trace.polls := List.mem_filterMap.mpr ⟨_, asked, rfl⟩
  rw [none] at counted
  exact List.not_mem_nil counted

/-- Something holds of a moment if that is a call. -/
def AtCalls (holds : Trace → Attempt → Trace → Prop) (before : Trace) (moment : Occurrence)
    (after : Trace) : Prop :=
  ∀ attempt, moment = .called attempt → holds before attempt after

/-- There is nothing to say of the calls of a trace that has none. -/
theorem throughout_of_attempts_eq {holds : Trace → Attempt → Trace → Prop} {trace : Trace}
    (none : trace.attempts = []) : Throughout (AtCalls holds) trace := by
  rintro before moment after rfl attempt rfl
  exact absurd (none ▸ mem_attempts) List.not_mem_nil

/-- The last poll before a call was answered with yes, and all calls since then have settled their
events. -/
def Admitted (before : Trace) (_ : Attempt) (_ : Trace) : Prop :=
  ∃ (earlier since : Trace) (timeout : Nat) (meanwhile : Meanwhile),
    before = earlier ++ .polled timeout meanwhile (.ok true) :: since
      ∧ since.polls = [] ∧ ∀ call ∈ since.attempts, call.verdict.settles = true

/-- Behind a call that found the daemon unreachable there is a report and then the pause. -/
def BackedOff (settings : DeliverySettings) (_ : Trace) (attempt : Attempt) (after : Trace) :
    Prop :=
  attempt.verdict = .unavailable →
    ∃ notice rest, after = .noted notice :: .paused settings.reconnectBackoff :: rest

theorem admitted_steady : Steady (AtCalls Admitted) := by
  intro earlier before moment after later admitted attempt here
  obtain ⟨front, since, timeout, meanwhile, rfl, polls, settled⟩ := admitted attempt here
  refine ⟨earlier ++ front, since, timeout, meanwhile, ?_, polls, settled⟩
  exact (List.append_assoc _ _ _).symm

theorem backedOff_steady (settings : DeliverySettings) :
    Steady (AtCalls (BackedOff settings)) := by
  intro earlier before moment after later backedOff attempt here unavailable
  obtain ⟨notice, rest, rfl⟩ := backedOff attempt here unavailable
  exact ⟨notice, rest ++ later, rfl⟩

/-- **Between a call that found the daemon unreachable and any later one, a poll was answered with
yes**: it is the poll behind which the later call was admitted. -/
theorem polled_between {trace before between after : Trace} {attempt next : Attempt}
    (admitted : Throughout (AtCalls Admitted) trace)
    (whole : trace = before ++ .called attempt :: (between ++ .called next :: after))
    (unavailable : attempt.verdict = .unavailable) :
    ∃ timeout meanwhile, .polled timeout meanwhile (.ok true) ∈ between := by
  have here : trace = (before ++ .called attempt :: between) ++ .called next :: after := by
    rw [whole, List.append_assoc]
    rfl
  obtain ⟨earlier, since, timeout, meanwhile, same, -, settled⟩ := admitted _ _ _ here next rfl
  rcases append_eq_split same with ⟨behind, -, rfl⟩ | ⟨front, rfl, found⟩
  · -- The poll cannot be before the unavailable call, which has not settled its event.
    have settles := settled attempt mem_attempts
    rw [unavailable] at settles
    cases settles
  · cases front with
    | nil => cases (List.cons.inj found).1
    | cons first front =>
      rw [(List.cons.inj found).2]
      exact ⟨timeout, meanwhile, List.mem_append_right _ List.mem_cons_self⟩

end Trace

/-- Nothing but the report stands behind a call that found the daemon unreachable. -/
theorem Reported.eq_of_unavailable {attempt : Attempt} {context : CallContext} {left : Nat}
    {after : Trace} (reported : Reported attempt context left after)
    (unavailable : attempt.verdict = .unavailable) : ∃ notice, after = [.noted notice] := by
  rw [Attempt.verdict] at unavailable
  cases reported with
  | deferred => exact ⟨_, rfl⟩
  | panicked answer | accepted answer =>
    rw [answer] at unavailable
    cases unavailable
  | rejected answer final =>
    rw [answer, Verdict.ofAnswer, final] at unavailable
    cases unavailable

namespace Worker

variable {σ : Type} {daemon : Daemon σ} {settings : DeliverySettings} {worker : Worker σ}

/-! ## Passes -/

/-- The poll in a trace that a poll leaves is that one. -/
theorem eq_of_mem_pollTrace {reported : List Notice} {timeout : Nat} {meanwhile : Meanwhile}
    {answer : Except Panic Bool}
    (asked : .polled timeout meanwhile answer ∈ pollTrace daemon reported worker) :
    meanwhile = worker.meanwhile (polling daemon worker).effects
      ∧ answer = (polling daemon worker).answer := by
  rcases List.mem_append.mp asked with early | rest
  · exact absurd early (Trace.not_mem_of_polls_eq (Trace.polls_map_noted _) _ _ _)
  · rcases List.mem_cons.mp rest with same | late
    · cases same
      exact ⟨rfl, rfl⟩
    · exact absurd late (Trace.not_mem_of_polls_eq (Trace.polls_map_noted _) _ _ _)

/-- The poll in the trace of a pass is the one with which the pass begins. -/
theorem Course.eq_of_mem {progress : Progress σ PassOutcome}
    (course : Course daemon settings worker progress) {timeout : Nat} {meanwhile : Meanwhile}
    {answer : Except Panic Bool} (asked : .polled timeout meanwhile answer ∈ progress.trace) :
    worker.stop = false ∧ meanwhile = worker.meanwhile (polling daemon worker).effects
      ∧ answer = (polling daemon worker).answer := by
  cases course with
  | stopped => cases asked
  | panicked going => exact ⟨going, eq_of_mem_pollTrace asked⟩
  | disconnected going => exact ⟨going, eq_of_mem_pollTrace asked⟩
  | idle going => exact ⟨going, eq_of_mem_pollTrace asked⟩
  | @sent going _ _ progress _ _ sent =>
    rcases List.mem_append.mp asked with early | late
    · exact ⟨going, eq_of_mem_pollTrace early⟩
    · have none : (progress.after [.taken (polled daemon worker).queue.toList,
          .noted (.dequeued (polled daemon worker).queue.toList.length)]).trace.polls = [] :=
        sent.polls_eq
      exact absurd late (Trace.not_mem_of_polls_eq none _ _ _)

/-- A pass with a call that found the daemon unreachable puts events off. -/
theorem Course.deferred_of_unavailable {progress : Progress σ PassOutcome}
    (course : Course daemon settings worker progress) {attempt : Attempt}
    (made : attempt ∈ progress.trace.attempts) (unavailable : attempt.verdict = .unavailable) :
    ∃ sent rejected requeued, progress.outcome = .ok (.deferred sent rejected requeued) := by
  cases course with
  | stopped => cases made
  | panicked | disconnected | idle =>
    rw [attempts_pollTrace] at made
    cases made
  | @sent _ _ _ progress done finish sent =>
    rw [attempts_goOn, sent.attempts_eq] at made
    have outcome : (goOn daemon worker progress).outcome = _ := sent.outcome_eq
    rw [outcome]
    rcases List.mem_append.mp made with settled | last
    · have settles := sent.settled attempt settled
      rw [unavailable] at settles
      cases settles
    · cases finish with
      | drained => cases last
      | deferred last left => exact ⟨_, _, _, rfl⟩
      | broken last panic left =>
        have panicked := Attempt.verdict_eq_panicked_iff.mpr ⟨panic, sent.sound⟩
        rw [List.mem_singleton.mp last, panicked] at unavailable
        cases unavailable

variable (daemon settings) in
/-- **The calls of a pass are admitted** by the poll of the pass. -/
theorem admitted_pass (worker : Worker σ) :
    Trace.Throughout (Trace.AtCalls Trace.Admitted) (pass daemon settings worker).trace := by
  rintro before moment after whole attempt rfl
  obtain ⟨⟨earlier, since, meanwhile, rfl, quiet, polls⟩, call⟩ := callAt_pass whole
  refine ⟨earlier, since, _, meanwhile, rfl, polls, ?_⟩
  intro other made
  refine call.settled other ?_
  rw [Trace.attempts_append]
  exact List.mem_append_right _ made

/-! ## Runs -/

/-- The pause behind a pass, if there is one. -/
def pausing (settings : DeliverySettings) : Except Panic PassOutcome → Trace
  | .error _ => []
  | .ok outcome => (outcome.pause settings).toList.map .paused

variable (daemon settings) in
/-- What a pass leaves in the trace of a run: with it goes the pause behind it. -/
def paced (worker : Worker σ) : Trace :=
  (pass daemon settings worker).trace ++ pausing settings (pass daemon settings worker).outcome

@[simp] theorem attempts_pausing (settings : DeliverySettings)
    (outcome : Except Panic PassOutcome) : (pausing settings outcome).attempts = [] := by
  cases outcome with
  | error panic => rfl
  | ok outcome => exact (Trace.quiet_paused _).attempts_eq

variable (daemon settings) in
/-- Behind a pass and its pause there is nothing, or there are more passes. -/
theorem trace_passes_succ (limit : Nat) (worker : Worker σ) :
    ∃ rest : Trace,
      (rest = [] ∨ rest = (passes daemon settings limit (pass daemon settings worker).worker).trace)
        ∧ (passes daemon settings (limit + 1) worker).trace
          = paced daemon settings worker ++ rest := by
  simp only [passes, paced]
  generalize pass daemon settings worker = progress
  obtain ⟨outcome, trace, after⟩ := progress
  cases outcome with
  | error panic =>
    refine ⟨[], .inl rfl, ?_⟩
    rw [pausing, List.append_nil, List.append_nil]
  | ok outcome =>
    cases outcome with
    | stopped =>
      refine ⟨[], .inl rfl, ?_⟩
      rw [List.append_nil]
      exact (List.append_nil _).symm
    | disconnected | idle | drained | deferred => exact ⟨_, .inr rfl, rfl⟩

section

variable {holds : Trace → Attempt → Trace → Prop}
  (steady : Trace.Steady (Trace.AtCalls holds))
include steady

/-- What holds of the calls of each pass holds of those of all passes. -/
theorem throughout_passes
    (each : ∀ worker : Worker σ,
      Trace.Throughout (Trace.AtCalls holds) (paced daemon settings worker))
    (limit : Nat) (worker : Worker σ) :
    Trace.Throughout (Trace.AtCalls holds) (passes daemon settings limit worker).trace := by
  induction limit generalizing worker with
  | zero => exact Trace.throughout_nil
  | succ limit ih =>
    obtain ⟨rest, last, whole⟩ := trace_passes_succ daemon settings limit worker
    rw [whole]
    refine .append steady (each worker) ?_
    rcases last with rfl | rfl
    · exact Trace.throughout_nil
    · exact ih _

/-- What holds of the calls of each pass holds of those of a run. -/
theorem throughout_runFor
    (each : ∀ worker : Worker σ,
      Trace.Throughout (Trace.AtCalls holds) (paced daemon settings worker))
    (limit : Nat) (worker : Worker σ) :
    Trace.Throughout (Trace.AtCalls holds) (runFor daemon settings limit worker).trace := by
  obtain ⟨report, closed⟩ := exists_closing (passes daemon settings limit worker)
  have start : Trace.Throughout (Trace.AtCalls holds) [.noted (startNotice settings)] :=
    Trace.throughout_of_attempts_eq rfl
  have behind : Trace.Throughout (Trace.AtCalls holds) (report.map .noted) :=
    Trace.throughout_of_attempts_eq (Trace.attempts_map_noted report)
  have inside := throughout_passes steady each limit worker
  rw [runFor, closed]
  exact .append steady (.append steady start inside) behind

end

variable (daemon settings) in
/-- The calls of a pass are admitted, whatever pause there is behind it. -/
theorem admitted_paced (worker : Worker σ) :
    Trace.Throughout (Trace.AtCalls Trace.Admitted) (paced daemon settings worker) :=
  .append Trace.admitted_steady (admitted_pass daemon settings worker)
    (Trace.throughout_of_attempts_eq (attempts_pausing settings _))

variable (daemon settings) in
/-- **The worker pauses behind a call that found the daemon unreachable.** -/
theorem backedOff_paced (worker : Worker σ) :
    Trace.Throughout (Trace.AtCalls (Trace.BackedOff settings)) (paced daemon settings worker) := by
  rintro before moment after whole attempt rfl unavailable
  rcases Trace.append_eq_split whole with ⟨behind, here, rfl⟩ | ⟨between, -, late⟩
  · obtain ⟨notice, rfl⟩ := (callAt_pass here).2.reported.eq_of_unavailable unavailable
    obtain ⟨sent, rejected, requeued, outcome⟩ :=
      (course_of_pass daemon settings worker).deferred_of_unavailable
        (here ▸ Trace.mem_attempts) unavailable
    rw [outcome]
    exact ⟨notice, [], rfl⟩
  · have none := attempts_pausing settings (pass daemon settings worker).outcome
    rw [late] at none
    exact absurd (none ▸ Trace.mem_attempts) List.not_mem_nil

end Worker

/-! ## Histories -/

namespace Deed

/-- What happened in the course of it. -/
def trace : Deed → Trace
  | passed _ trace => trace
  | _ => []

end Deed

namespace History

variable {σ : Type} {daemon : Daemon σ} {settings : DeliverySettings}

/-- What happened in the course of a history. -/
def trace (history : History σ) : Trace := history.deeds.flatMap Deed.trace

/-- What holds of the calls of each pass holds of those of a history. -/
theorem throughout_run {holds : Trace → Attempt → Trace → Prop}
    (steady : Trace.Steady (Trace.AtCalls holds))
    (each : ∀ worker : Worker σ,
      Trace.Throughout (Trace.AtCalls holds) (worker.pass daemon settings).trace)
    (state : σ) (actions : List (Action σ)) :
    Trace.Throughout (Trace.AtCalls holds)
      (run daemon settings actions (fresh settings state)).trace := by
  refine run_induction
    (motive := fun history => Trace.Throughout (Trace.AtCalls holds) history.trace)
    Trace.throughout_nil ?_
  intro history action _ earlier
  cases action with
  | enqueue | setStop | adjust =>
    rw [trace, flatMap_of_deeds Deed.trace rfl]
    exact .append steady earlier Trace.throughout_nil
  | pass =>
    rw [trace, flatMap_of_deeds Deed.trace rfl]
    exact .append steady earlier (each history.worker)

end History

namespace Worker

variable {σ : Type}

/-- **The worker does not call without a poll**, and calls no more once it cannot get through.

A pass with a call has polled once, before the call, and the answer was yes.  If the call finds the
daemon unreachable, it is the last one of its pass, which puts events off.  A pass whose poll is
answered with no takes nothing, and leaves the totals and what was waiting as they were.

In a run, the report of a call that finds the daemon unreachable is followed by the pause for
reconnecting; and between this call and the next one, a poll is answered with yes.  It is so in a
history, too, whatever others do between the passes. -/
theorem no_call_without_poll (daemon : Daemon σ) (settings : DeliverySettings) :
    (∀ worker : Worker σ,
      let progress := pass daemon settings worker
      (∀ (before : Trace) (attempt : Attempt) (after : Trace),
          progress.trace = before ++ .called attempt :: after →
          progress.trace.polls = [worker.monitor.timeout]
            ∧ (∃ meanwhile, .polled worker.monitor.timeout meanwhile (.ok true) ∈ before)
            ∧ (attempt.verdict = .unavailable → after.attempts = []
              ∧ ∃ sent rejected requeued,
                progress.outcome = .ok (.deferred sent rejected requeued)))
        ∧ ∀ (timeout : Nat) (meanwhile : Meanwhile),
          .polled timeout meanwhile (.ok false) ∈ progress.trace →
          progress.outcome = .ok .disconnected
            ∧ progress.trace.taken = [] ∧ progress.trace.attempts = []
            ∧ progress.worker.stats = worker.stats
            ∧ progress.worker.queue.toList = worker.queue.toList ++ meanwhile.arrived)
      ∧ (∀ (limit : Nat) (worker : Worker σ) (before : Trace) (attempt : Attempt) (after : Trace),
        (runFor daemon settings limit worker).trace = before ++ .called attempt :: after →
        (∃ (earlier since : Trace) (timeout : Nat) (meanwhile : Meanwhile),
            before = earlier ++ .polled timeout meanwhile (.ok true) :: since
              ∧ since.polls = [] ∧ ∀ call ∈ since.attempts, call.verdict.settles = true)
          ∧ (attempt.verdict = .unavailable →
            (∃ notice rest, after = .noted notice :: .paused settings.reconnectBackoff :: rest)
              ∧ ∀ between next rest, after = between ++ .called next :: rest →
                ∃ timeout meanwhile, .polled timeout meanwhile (.ok true) ∈ between))
      ∧ ∀ (state : σ) (actions : List (Action σ)) (before between : Trace) (attempt next : Attempt)
          (after : Trace),
        (History.run daemon settings actions (.fresh settings state)).trace
          = before ++ .called attempt :: (between ++ .called next :: after) →
        attempt.verdict = .unavailable →
        ∃ timeout meanwhile, .polled timeout meanwhile (.ok true) ∈ between := by
  refine ⟨?_, ?_, ?_⟩
  · intro worker progress
    have course : Course daemon settings worker progress := course_of_pass daemon settings worker
    refine ⟨?_, ?_⟩
    · intro before attempt after whole
      have made : attempt ∈ progress.trace.attempts := whole ▸ Trace.mem_attempts
      obtain ⟨⟨earlier, since, meanwhile, asked, -, -⟩, call⟩ := callAt_pass whole
      refine ⟨course.polls_eq (course.sends made).1, ⟨meanwhile, ?_⟩, ?_⟩
      · rw [asked]
        exact List.mem_append_right _ List.mem_cons_self
      · intro unavailable
        obtain ⟨notice, rfl⟩ := call.reported.eq_of_unavailable unavailable
        exact ⟨rfl, course.deferred_of_unavailable made unavailable⟩
    · intro timeout meanwhile asked
      obtain ⟨going, rfl, answer⟩ := course.eq_of_mem asked
      have disconnected : progress = _ := pass_of_disconnected going answer.symm
      rw [disconnected]
      exact ⟨rfl, taken_pollTrace _, attempts_pollTrace _, rfl, rfl⟩
  · intro limit worker before attempt after whole
    have admitted := throughout_runFor Trace.admitted_steady
      (admitted_paced daemon settings) limit worker
    have backedOff := throughout_runFor (Trace.backedOff_steady settings)
      (backedOff_paced daemon settings) limit worker
    refine ⟨admitted _ _ _ whole attempt rfl, fun unavailable => ⟨?_, ?_⟩⟩
    · exact backedOff _ _ _ whole attempt rfl unavailable
    · rintro between next rest rfl
      exact Trace.polled_between admitted whole unavailable
  · intro state actions before between attempt next after whole unavailable
    have admitted := History.throughout_run Trace.admitted_steady
      (admitted_pass daemon settings) state actions
    exact Trace.polled_between admitted whole unavailable

/-- A daemon that is not there. -/
def absent : Daemon Unit :=
  .uniform (fun _ => { answer := .ok false, next := () }) fun _ _ =>
    { answer := .ok (.error ⟨.unavailable, ""⟩), next := () }

/-- What could not be delivered in the first pass is delivered in the second one, behind a poll of
its own.  Where the daemon is not there at all, everything is left waiting. -/
theorem no_call_without_poll_faltering :
    let worker := (fresh {} 0).enqueue [.start []]
    let first := pass History.faltering {} worker
    let second := pass History.faltering {} first.worker
    let run := runFor History.faltering {} 2 worker
    let actions : List (Action Nat) := [.enqueue [.start []], .pass, .pass]
    let history := History.run History.faltering {} actions (.fresh {} 0)
    let left := pass absent {} ((fresh {} ()).enqueue [.start []])
    history.trace = first.trace ++ second.trace
      ∧ run.trace = .noted (startNotice {}) :: (first.trace ++ .paused 1000 :: second.trace)
      ∧ (∃ sent rejected requeued, first.outcome = .ok (.deferred sent rejected requeued))
      ∧ (∃ notice rest, first.trace.drop 6 ++ .paused 1000 :: second.trace
        = .noted notice :: .paused 1000 :: rest)
      ∧ (∃ timeout meanwhile,
        .polled timeout meanwhile (.ok true) ∈ first.trace.drop 6 ++ second.trace.take 4)
      ∧ (∃ timeout meanwhile, .polled timeout meanwhile (.ok true)
        ∈ first.trace.drop 6 ++ .paused 1000 :: second.trace.take 4)
      ∧ left.outcome = .ok .disconnected ∧ left.worker.queue.toList = [⟨.start [], 0⟩] := by
  intro worker first second run actions history left
  let failed := attempt History.faltering {} ⟨.start [], 0⟩ worker
  let next : Attempt :=
    { event := ⟨.start [], 0⟩, call := Event.call {} ⟨.start [], 0⟩, answer := .ok (.ok ()) }
  have both : history.trace = first.trace ++ second.trace :=
    congrArg (first.trace ++ ·) (List.append_nil second.trace)
  have whole : run.trace
      = .noted (startNotice {}) :: (first.trace ++ .paused 1000 :: second.trace) := by
    have parts : run.trace = .noted (startNotice {})
        :: ((first.trace ++ [.paused 1000]) ++ ((second.trace ++ []) ++ [])) ++ [] := rfl
    simpa only [List.append_nil, List.append_assoc, List.singleton_append] using parts
  have early : first.trace = first.trace.take 5 ++ .called failed :: first.trace.drop 6 := rfl
  have late : second.trace = second.trace.take 4 ++ .called next :: second.trace.drop 5 := rfl
  have split (rest : Trace) : first.trace ++ rest
      = first.trace.take 5 ++ .called failed :: (first.trace.drop 6 ++ rest) := by
    conv_lhs => rw [early]
    exact List.append_assoc _ _ _
  have unavailable : failed.verdict = .unavailable := rfl
  obtain ⟨passes, runs, histories⟩ := no_call_without_poll History.faltering {}
  obtain ⟨absences, -, -⟩ := no_call_without_poll absent {}
  obtain ⟨-, -, last⟩ := (passes worker).1 _ failed _ early
  have apart : history.trace = first.trace.take 5 ++ .called failed
      :: ((first.trace.drop 6 ++ second.trace.take 4) ++ .called next :: second.trace.drop 5) := by
    rw [List.append_assoc, ← late, ← split]
    exact both
  have retried := histories 0 actions _ _ failed next _ apart unavailable
  obtain ⟨-, behind⟩ := runs 2 worker (.noted (startNotice {}) :: first.trace.take 5) failed
    (first.trace.drop 6 ++ .paused 1000 :: second.trace) (whole.trans (congrArg _ (split _)))
  obtain ⟨⟨notice, rest, paused⟩, between⟩ := behind unavailable
  have asked := between (first.trace.drop 6 ++ .paused 1000 :: second.trace.take 4) next
    (second.trace.drop 5) (by rw [List.append_assoc, List.cons_append, ← late])
  obtain ⟨disconnected, -, -, -, waiting⟩ :=
    (absences ((fresh {} ()).enqueue [.start []])).2 3000 ⟨[], none⟩ (.head _)
  exact ⟨both, whole, (last unavailable).2, ⟨notice, rest, paused⟩, retried, asked, disconnected,
    waiting⟩

end Worker

end JobHooks
