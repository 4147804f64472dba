import JobHooks.Daemon.Script
import JobHooks.Proofs.Rounds

/-!
# Runs over a rehearsed script end

During every call more events may be handed over than the worker has sent, so how many are waiting
says nothing about when a run ends.  What decreases are the polls of the script: each pass that is
not stopped uses one up, the calls use up none, and once there are none left, a poll asks the worker
to stop.  Within a pass it is the batch that is fixed before the first call.

`Script.run_ends` says that `Script.passLimit` passes are enough whatever the script is, and counts
the polls and the calls.
-/

namespace JobHooks

set_option autoImplicit false

namespace Worker

variable {σ : Type} {daemon : Daemon σ} {settings : DeliverySettings} {worker : Worker σ}

/-- The calls for a batch leave the daemon where they take it one after the other. -/
theorem Sent.daemon_eq {batch : List Event} {sent rejected : Nat}
    {progress : Progress σ PassOutcome} {done : List Attempt} {finish : Finish}
    (sent : Sent daemon settings batch sent rejected worker progress done finish) :
    progress.worker.daemon = daemon.stateAfter progress.trace.calls worker.daemon := by
  obtain ⟨after, exchanged, state⟩ := sent.exchanged
  rw [← List.append_nil progress.trace.attempts] at exchanged
  obtain ⟨between, first, moved, rest⟩ := exchange_split exchanged
  have last : between = after := congrArg Prod.snd rest
  rw [state, ← last, moved]
  rfl

/-- A pass that is not stopped leaves the daemon where its poll and then its calls take it. -/
theorem Course.daemon_eq {progress : Progress σ PassOutcome}
    (course : Course daemon settings worker progress) (going : worker.stop = false) :
    progress.worker.daemon
      = daemon.stateAfter progress.trace.calls (polling daemon worker).next := by
  cases course with
  | stopped stop => exact absurd (going.symm.trans stop) Bool.false_ne_true
  | panicked | disconnected | idle =>
    rw [Trace.calls, attempts_pollTrace]
    rfl
  | sent _ _ _ sent =>
    rw [Trace.calls, attempts_goOn]
    exact sent.daemon_eq

/-- **A pass makes at most as many calls as events were waiting when it had polled**, and makes them
for the first ones of these, one after the other. -/
theorem Course.called_early {progress : Progress σ PassOutcome}
    (course : Course daemon settings worker progress) :
    progress.trace.attempts.map Attempt.event <+: (polled daemon worker).queue.toList := by
  cases course with
  | stopped => exact List.nil_prefix
  | panicked | disconnected | idle =>
    rw [attempts_pollTrace]
    exact List.nil_prefix
  | sent _ _ _ sent =>
    have first := sent.attempts_prefix.map Attempt.event
    rw [map_event_exchange] at first
    rw [attempts_goOn]
    exact first

end Worker

namespace Script

open Worker

/-! ## What polls and calls do to a script -/

/-- Something that no poll and no call takes away from a script. -/
theorem stateAfter_of_kept {motive : Script → Prop}
    (kept : ∀ (call : Call) (script : Script), motive script →
      motive (rehearsed.receive call script).next)
    (calls : List Call) {script : Script} (start : motive script) :
    motive (rehearsed.stateAfter calls script) := by
  induction calls generalizing script with
  | nil => exact start
  | cons call calls ih => exact ih (kept call script start)

/-- The rehearsed daemon receives a call as the script answers one of its kind. -/
theorem receive_rehearsed (call : Call) (script : Script) :
    rehearsed.receive call script = script.answer call.request.hookType call.context := by
  obtain ⟨kind, context, request⟩ := call
  cases request <;> rfl

/-- Calls use up no polls. -/
theorem polls_receive (call : Call) (script : Script) :
    (rehearsed.receive call script).next.polls = script.polls := by
  rw [receive_rehearsed, answer, nextReply]
  cases script.replies <;> rfl

/-- A poll uses up one poll. -/
theorem polls_nextPoll (script : Script) : script.nextPoll.next.polls = script.polls.tail := by
  unfold nextPoll
  cases same : script.polls with
  | nil => exact same
  | cons poll rest => rfl

/-- No reply of a script panics. -/
structure Calm (script : Script) : Prop where
  replies : ∀ reply ∈ script.replies, reply.panic? = none
  rules : ∀ entry ∈ script.rules, entry.2.panic? = none

/-- The next reply of a calm script does not panic, and what is left is calm. -/
theorem Calm.nextReply {script : Script} (calm : script.Calm) (kind : HookType) :
    (script.nextReply kind).1.panic? = none ∧ (script.nextReply kind).2.Calm := by
  unfold Script.nextReply
  cases same : script.replies with
  | nil =>
    refine ⟨?_, calm⟩
    unfold rule
    cases found : script.rules.find? fun entry => entry.1 == kind with
    | none => rfl
    | some entry => exact calm.rules entry (List.mem_of_find?_eq_some found)
  | cons reply rest =>
    have all := calm.replies
    rw [same] at all
    obtain ⟨now, later⟩ := List.forall_mem_cons.mp all
    exact ⟨now, later, calm.rules⟩

/-- A calm script answers every call, and stays calm. -/
theorem Calm.receive {script : Script} (calm : script.Calm) (call : Call) :
    (∃ result, (rehearsed.receive call script).answer = .ok result)
      ∧ (rehearsed.receive call script).next.Calm := by
  obtain ⟨silent, rest⟩ := calm.nextReply call.request.hookType
  rw [receive_rehearsed, answer]
  refine ⟨?_, rest.replies, rest.rules⟩
  simp only [silent]
  split
  · exact ⟨_, rfl⟩
  · exact ⟨_, rfl⟩

theorem Calm.nextPoll {script : Script} (calm : script.Calm) : script.nextPoll.next.Calm := by
  unfold Script.nextPoll
  cases script.polls with
  | nil => exact calm
  | cons poll rest => exact ⟨calm.replies, calm.rules⟩

/-! ## Passes -/

section

variable {settings : DeliverySettings} {worker : Worker Script}

variable (settings) in
/-- A pass uses up one poll. -/
theorem polls_pass (going : worker.stop = false) :
    (pass rehearsed settings worker).worker.daemon.polls = worker.daemon.polls.tail := by
  rw [(course_of_pass rehearsed settings worker).daemon_eq going]
  exact stateAfter_of_kept (motive := fun script => script.polls = worker.daemon.polls.tail)
    (fun call script same => (polls_receive call script).trans same) _
    (polls_nextPoll worker.daemon)

variable (settings) in
/-- Once the polls are used up, a pass asks the worker to stop. -/
theorem pass_of_used (going : worker.stop = false) (used : worker.daemon.polls = []) :
    (pass rehearsed settings worker).outcome = .ok .disconnected
      ∧ (pass rehearsed settings worker).worker.stop = true := by
  have last : worker.daemon.nextPoll
      = { answer := .ok false, effects := { stop? := some true }, next := worker.daemon } := by
    rw [nextPoll, used]
  have answer : (polling rehearsed worker).answer = .ok false := congrArg (·.answer) last
  have asked : (polling rehearsed worker).effects.stop? = some true :=
    congrArg (·.effects.stop?) last
  rw [pass_of_disconnected going answer]
  refine ⟨rfl, ?_⟩
  change (worker.absorb (polling rehearsed worker).effects (polling rehearsed worker).next).stop
    = true
  rw [absorb, asked]
  rfl

variable (settings) in
/-- A pass over a calm script does not panic, and leaves a calm script. -/
theorem Calm.pass (calm : worker.daemon.Calm) :
    (∃ outcome, (worker.pass rehearsed settings).outcome = .ok outcome)
      ∧ (worker.pass rehearsed settings).worker.daemon.Calm := by
  have course := course_of_pass rehearsed settings worker
  have after : ∀ calls, (rehearsed.stateAfter calls (polling rehearsed worker).next).Calm :=
    fun calls => stateAfter_of_kept (motive := Calm)
      (fun call script calm => (calm.receive call).2) calls calm.nextPoll
  constructor
  · cases outcome : (worker.pass rehearsed settings).outcome with
    | ok result => exact ⟨result, rfl⟩
    | error panic =>
      rcases course.panics outcome with polled | ⟨attempt, made, broken⟩
      · -- The list of polls has no way to panic.
        have answers : ∃ connected, worker.daemon.nextPoll.answer = .ok connected := by
          unfold Script.nextPoll
          cases worker.daemon.polls <;> exact ⟨_, rfl⟩
        obtain ⟨connected, answer⟩ := answers
        cases polled.symm.trans answer
      · obtain ⟨before, behind, whole⟩ := Trace.exists_split made
        have known := (callAt_pass whole).2.made.answer_eq
        obtain ⟨result, answer⟩ := ((after (Trace.calls before)).receive attempt.call).1
        cases broken.symm.trans (known.trans answer)
  · cases going : worker.stop with
    | true =>
      rw [pass_of_stop going]
      exact calm
    | false =>
      rw [course.daemon_eq going]
      exact after _

variable (settings) in
/-- **As many passes as the limit are enough**: the polls run out, whatever is handed over. -/
theorem passes_finished {limit : Nat} (enough : worker.daemon.passLimit ≤ limit) :
    (passes rehearsed settings limit worker).outcome ≠ .ok .unfinished := by
  induction limit generalizing worker with
  | zero => cases enough
  | succ limit ih =>
    cases round rehearsed settings worker with
    | stopped _ passes_eq | panicked _ passes_eq =>
      rw [passes_eq]
      simp
    | made outcome pauses passes_eq =>
      have going := going_of_passes_eq passes_eq
      rw [passes_eq]
      cases polls : worker.daemon.polls with
      | nil =>
        -- This pass has asked to stop, so that the next one is stopped.
        obtain ⟨next, rfl⟩ : ∃ next, limit = next + 1 := by
          refine Nat.exists_eq_succ_of_ne_zero ?_
          rintro rfl
          simp [passLimit] at enough
        simp only [Progress.after, passes_of_stop (pass_of_used settings going polls).2]
        simp
      | cons poll rest =>
        have fewer := polls_pass settings going
        refine ih ?_
        rw [passLimit, polls, List.length_cons] at enough
        rw [passLimit, fewer, polls, List.tail_cons]
        omega

/-- Passes poll once for each poll of the script and once more, at most. -/
theorem length_polls_passes (limit : Nat) (worker : Worker Script) :
    (passes rehearsed settings limit worker).trace.polls.length
      ≤ worker.daemon.polls.length + 1 := by
  induction limit generalizing worker with
  | zero => exact Nat.zero_le _
  | succ limit ih =>
    have course := course_of_pass rehearsed settings worker
    cases going : worker.stop with
    | true =>
      rw [passes_of_stop going]
      exact Nat.zero_le _
    | false =>
      have one := course.polls_eq going
      cases round rehearsed settings worker with
      | stopped stop => exact absurd (going.symm.trans stop) Bool.false_ne_true
      | panicked _ passes_eq =>
        rw [passes_eq, one]
        exact Nat.le_add_left _ _
      | made _ pauses passes_eq =>
        have silent := (Trace.quiet_paused pauses).polls_eq
        rw [passes_eq]
        simp only [Progress.after, Trace.polls_append, one, silent, List.append_nil,
          List.length_append, List.length_singleton]
        cases polls : worker.daemon.polls with
        | nil =>
          have stop := (pass_of_used settings going polls).2
          cases limit with
          | zero => exact Nat.le_refl _
          | succ limit =>
            rw [passes_of_stop stop]
            exact Nat.le_refl _
        | cons poll rest =>
          have later := ih (pass rehearsed settings worker).worker
          rw [polls_pass settings going, polls, List.tail_cons] at later
          rw [List.length_cons]
          omega

/-- Passes over a calm script do not panic. -/
theorem Calm.passes {limit : Nat} {panic : Panic} (calm : worker.daemon.Calm) :
    (worker.passes rehearsed settings limit).outcome ≠ .error panic := by
  induction limit generalizing worker with
  | zero => simp [Worker.passes]
  | succ limit ih =>
    obtain ⟨⟨outcome, made⟩, later⟩ := calm.pass settings
    cases round rehearsed settings worker with
    | stopped _ passes_eq =>
      rw [passes_eq]
      simp
    | panicked broken => cases made.symm.trans broken
    | made _ pauses passes_eq =>
      rw [passes_eq]
      exact ih later

end

/-! ## The whole run -/

/-- **A run over a rehearsed script ends**, whatever its replies and standing replies hand over.

It is stopped, or a reply panics; more passes than the limit change nothing.  Its trace is that of
its passes, one after the other.  All but the last one poll once, and the last one of a run that is
stopped does nothing.  There is at most one poll for each poll of the script and one more.  A pass
calls for the first of the events that were waiting when it had polled, each of them at most once,
however many are handed over during these calls. -/
theorem run_ends (settings : DeliverySettings) (worker : Worker Script) :
    let progress := Script.run settings worker
    let starts := Worker.starts rehearsed settings worker.daemon.passLimit worker
    (∀ limit ≥ worker.daemon.passLimit, runFor rehearsed settings limit worker = progress)
      ∧ (progress.outcome = .ok .stopped ∨ ∃ panic, progress.outcome = .error panic)
      ∧ (worker.daemon.Calm → progress.outcome = .ok .stopped)
      ∧ progress.trace = .noted (startNotice settings)
          :: starts.flatMap (paced rehearsed settings) ++ closing progress
      ∧ progress.trace.polls.length ≤ worker.daemon.polls.length + 1
      ∧ (∃ earlier last, starts = earlier ++ [last]
          ∧ (∀ start ∈ earlier,
            (start.pass rehearsed settings).trace.polls = [start.monitor.timeout])
          ∧ (progress.outcome = .ok .stopped →
            last.pass rehearsed settings = ⟨.ok .stopped, [], last⟩))
      ∧ ∀ start ∈ starts,
        let batch := (polled rehearsed start).queue.toList
        let attempts := (start.pass rehearsed settings).trace.attempts
        attempts.map Attempt.event <+: batch ∧ attempts.length ≤ batch.length := by
  intro progress starts
  have finished := passes_finished settings (Nat.le_refl worker.daemon.passLimit)
  have ended : progress.outcome ≠ .ok .unfinished := finished
  refine ⟨?_, ?_, ?_, ?_, ?_, ?_, ?_⟩
  · intro limit enough
    obtain ⟨more, rfl⟩ := Nat.exists_eq_add_of_le enough
    simp only [progress, Script.run, runFor, passes_of_finished finished]
  · cases outcome : progress.outcome with
    | error panic => exact .inr ⟨panic, rfl⟩
    | ok ending =>
      cases ending with
      | stopped => exact .inl rfl
      | unfinished => exact absurd outcome ended
  · intro calm
    cases outcome : progress.outcome with
    | error panic => exact absurd outcome calm.passes
    | ok ending =>
      cases ending with
      | stopped => rfl
      | unfinished => exact absurd outcome ended
  · simp only [progress, Script.run, runFor, trace_passes]
    rfl
  · obtain ⟨report, closed⟩ := exists_closing
      (passes rehearsed settings worker.daemon.passLimit worker)
    have start := (Trace.quiet_noted [startNotice settings]).polls_eq
    have behind := (Trace.quiet_noted report).polls_eq
    have parts : progress.trace = [startNotice settings].map .noted
        ++ ((passes rehearsed settings worker.daemon.passLimit worker).trace
          ++ report.map .noted) := by
      rw [← closed]
      rfl
    rw [parts, Trace.polls_append, Trace.polls_append, start, behind, List.append_nil]
    exact length_polls_passes _ worker
  · obtain ⟨earlier, last, split, going, stop⟩ := exists_last_of_finished finished
    refine ⟨earlier, last, split, ?_, fun stopped => pass_of_stop (stop stopped)⟩
    intro start member
    exact (course_of_pass rehearsed settings start).polls_eq (going start member)
  · intro start _ batch attempts
    have first := (course_of_pass rehearsed settings start).called_early
    refine ⟨first, ?_⟩
    rw [← List.length_map Attempt.event]
    exact first.length_le

/-- A script in which two hooks are handed over at each call for a job that starts. -/
def swelling : Script where
  rules := [(.start, { effects := { arrivals := [.start [], .start []] } })]
  polls := [{ connected := true }, { connected := false }, { connected := true }]

theorem swelling_calm : swelling.Calm where
  replies := fun _ member => absurd member List.not_mem_nil
  rules := fun entry member => by rw [List.mem_singleton.mp member]

/-- With every call for an event two more are waiting; all the same the run ends with its fifth
pass, and leaves four events. -/
theorem run_ends_swelling :
    let worker := (Worker.fresh {} swelling).enqueue [.start []]
    let progress := Script.run {} worker
    swelling.Calm ∧ progress.outcome = .ok .stopped ∧ worker.daemon.passLimit = 5
      ∧ runFor rehearsed {} 7 worker = progress
      ∧ progress.trace.polls = [3000, 3000, 3000, 3000]
      ∧ progress.trace.attempts.length = 3 ∧ progress.worker.pending = 4
      ∧ (∃ last, (starts rehearsed {} 5 worker).getLast? = some last
        ∧ last.pass rehearsed {} = ⟨.ok .stopped, [], last⟩) := by
  intro worker progress
  obtain ⟨longer, -, calm, -, -, ⟨earlier, last, split, -, stopped⟩, -⟩ := run_ends {} worker
  have outcome : progress.outcome = .ok .stopped := calm swelling_calm
  refine ⟨swelling_calm, outcome, rfl, longer 7 (by decide), by decide, by decide, by decide,
    last, ?_, stopped outcome⟩
  have here : starts rehearsed {} 5 worker = earlier ++ [last] := split
  rw [here, List.getLast?_concat]

end Script

end JobHooks
