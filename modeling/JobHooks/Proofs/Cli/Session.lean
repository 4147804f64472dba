import JobHooks.Cli.Run
import JobHooks.Proofs.Counting
import JobHooks.Proofs.Transport.Delivery

/-!
# A caller and its worker

A command that sends a hook runs beside the worker that delivers it.  The caller hands the event
over, looks again and again whether it has been accepted or rejected, and when that is so or the
time is over it reads the totals and the size of the queue, one number after the other.  Only then
does it ask the worker to stop and wait for its end.  A `Session` is the two of them; a schedule
says who moves next, and when the time is over.

A session is a schedule of its worker (`Session.exists_machine_run`), and what is known of those
holds at every moment of it.  `Session.exists_sampled` finds the moments at which the caller read
what it reports.
-/

namespace JobHooks.Cli

set_option autoImplicit false

/-! ## Sessions -/

/-- How many events a sample tells of. -/
def Sample.total (sample : Sample) : Nat :=
  sample.sent.toNat + sample.rejected.toNat + sample.pending

/-- What the caller is about to do. -/
inductive Stage where
  /-- To hand the event over. -/
  | submitting
  /-- To go on to its report if the time is over, and otherwise to read how many were accepted. -/
  | waiting
  /-- To read how many were rejected, and to go on to its report if anything was settled. -/
  | watching (sent : UInt64)
  /-- To read, for its report, how many were accepted. -/
  | readingSent
  /-- To read how many were rejected. -/
  | readingRejected (sent : UInt64)
  /-- To read how many were put off. -/
  | readingRequeued (sent rejected : UInt64)
  /-- To read how many are waiting. -/
  | readingPending (sent rejected requeued : UInt64)
  /-- To ask the worker to stop. -/
  | stopping (sample : Sample)
  /-- To wait for the end of the worker. -/
  | joining (sample : Sample)
  /-- Nothing any more: it reports what it has read. -/
  | done (sample : Sample)
  deriving Repr, DecidableEq, Inhabited

/-- What the caller reports, once it has read all of it. -/
def Stage.sample? : Stage → Option Sample
  | .stopping sample | .joining sample | .done sample => some sample
  | .submitting | .waiting | .watching _ | .readingSent | .readingRejected _ | .readingRequeued _ _
  | .readingPending _ _ _ => none

/-- Who moves next. -/
inductive Move where
  | worker
  /-- The caller, which may find that its time is over. -/
  | caller (isLate : Bool)
  deriving Repr, DecidableEq, Inhabited

/-- A caller and the worker that it shares a queue and totals with. -/
structure Session (σ : Type) where
  machine : Machine σ
  stage : Stage := .submitting

end Cli

/-- Whether the worker has come to its end: it has panicked or found that it is to stop. -/
def Machine.isOver {σ : Type} (machine : Machine σ) : Bool :=
  match machine.phase with
  | .dead _ _ => true
  | _ => machine.outcomes.contains .stopped

namespace Cli.Session

variable {σ : Type}

/-- What the caller does. -/
def advance (isLate : Bool) (session : Session σ) : Session σ :=
  let machine := session.machine
  let stats := machine.worker.stats
  match session.stage with
  | .submitting => { machine := machine.produce 0, stage := .waiting }
  | .waiting => { machine, stage := if isLate then .readingSent else .watching stats.sent }
  | .watching sent =>
    { machine, stage := if 0 < sent + stats.rejected then .readingSent else .waiting }
  | .readingSent => { machine, stage := .readingRejected stats.sent }
  | .readingRejected sent => { machine, stage := .readingRequeued sent stats.rejected }
  | .readingRequeued sent rejected =>
    { machine, stage := .readingPending sent rejected stats.requeued }
  | .readingPending sent rejected requeued =>
    { machine, stage := .stopping { sent, rejected, requeued, pending := machine.worker.pending } }
  | .stopping sample =>
    { machine := { machine with worker := machine.worker.setStop true }, stage := .joining sample }
  | .joining sample =>
    { machine, stage := if machine.isOver then .done sample else .joining sample }
  | .done _ => session

/-- One move.  A worker that has been asked to stop finds nothing else in all its later moves. -/
def move (daemon : Daemon σ) (settings : DeliverySettings) (session : Session σ) :
    Move → Session σ
  | .worker => { session with machine := session.machine.work daemon settings }
  | .caller isLate => session.advance isLate

/-- The moves of a schedule, one after the other. -/
def run (daemon : Daemon σ) (settings : DeliverySettings) (schedule : List Move)
    (session : Session σ) : Session σ :=
  schedule.foldl (move daemon settings) session

/-- A session in which nothing has happened: a payload is to be handed over. -/
def start (settings : DeliverySettings) (state : σ) (payload : Payload) : Session σ where
  machine := .fresh settings state fun who => if who = 0 then [payload] else []

/-- The one event of a session. -/
def event (payload : Payload) : Event := ⟨payload, 0⟩

/-! ## Moves as turns -/

variable {daemon : Daemon σ} {settings : DeliverySettings} {session : Session σ}

/-- What a move is for the worker and what it shares with the caller. -/
def turns (session : Session σ) : Move → List Turn
  | .worker => [.worker]
  | .caller _ =>
    match session.stage with
    | .submitting => [.producer 0]
    | .stopping _ => [.stop true]
    | _ => []

theorem turns_cases (session : Session σ) (move : Move) :
    session.turns move = [] ∨ ∃ turn, session.turns move = [turn] := by
  cases move with
  | worker => exact .inr ⟨.worker, rfl⟩
  | caller =>
    rw [turns]
    split <;> simp

theorem machine_move (move : Move) :
    (session.move daemon settings move).machine
      = session.machine.run daemon settings (session.turns move) := by
  cases move with
  | worker => rfl
  | caller isLate =>
    cases stage : session.stage <;> simp only [Session.move, advance, turns, stage] <;> rfl

/-- **A session is a schedule of the worker**, in which nobody else hands anything over. -/
theorem exists_machine_run (daemon : Daemon σ) (settings : DeliverySettings)
    (schedule : List Move) (session : Session σ) :
    ∃ turns, (session.run daemon settings schedule).machine
      = session.machine.run daemon settings turns := by
  induction schedule generalizing session with
  | nil => exact ⟨[], rfl⟩
  | cons move schedule ih =>
    obtain ⟨turns, later⟩ := ih (session.move daemon settings move)
    refine ⟨session.turns move ++ turns, ?_⟩
    rw [Machine.run, List.foldl_append]
    exact later.trans (congrArg _ (machine_move move))

theorem run_append (earlier later : List Move) (session : Session σ) :
    session.run daemon settings (earlier ++ later)
      = (session.run daemon settings earlier).run daemon settings later :=
  List.foldl_append

/-- A call that was made remains made. -/
theorem attempts_grow {earlier schedule : List Move} (early : earlier <+: schedule)
    (session : Session σ) :
    (session.run daemon settings earlier).machine.trace.attempts
      <+: (session.run daemon settings schedule).machine.trace.attempts := by
  obtain ⟨later, rfl⟩ := early
  obtain ⟨turns, same⟩ :=
    exists_machine_run daemon settings later (session.run daemon settings earlier)
  rw [run_append, same]
  exact Machine.attempts_prefix_run daemon settings turns _

section

variable (daemon : Daemon σ) (settings : DeliverySettings) (session : Session σ)
  {earlier schedule : List Move} (early : earlier <+: schedule)

include early

/-- What was accepted remains so. -/
theorem accepted_grows :
    (session.run daemon settings earlier).machine.accepted
      <+: (session.run daemon settings schedule).machine.accepted :=
  ((attempts_grow early session).filter _).map _

/-- What was rejected remains so. -/
theorem rejected_grows :
    (session.run daemon settings earlier).machine.rejected
      <+: (session.run daemon settings schedule).machine.rejected :=
  ((attempts_grow early session).filter _).map _

end

/-- **The totals stand still while nothing is to be counted.** -/
theorem totals_still (schedule : List Move) {session : Session σ}
    (nothing : ∀ earlier, earlier <+: schedule →
      (session.run daemon settings earlier).machine.phase.uncounted = []) :
    (session.run daemon settings schedule).machine.worker.stats.sent
        = session.machine.worker.stats.sent
      ∧ (session.run daemon settings schedule).machine.worker.stats.rejected
        = session.machine.worker.stats.rejected := by
  induction schedule generalizing session with
  | nil => exact ⟨rfl, rfl⟩
  | cons move schedule ih =>
    have later := ih fun earlier early =>
      nothing (move :: earlier) (List.cons_prefix_cons.mpr ⟨rfl, early⟩)
    have now : session.machine.phase.uncounted = [] := nothing [] List.nil_prefix
    have still : (session.move daemon settings move).machine.worker.stats.sent
          = session.machine.worker.stats.sent
        ∧ (session.move daemon settings move).machine.worker.stats.rejected
          = session.machine.worker.stats.rejected := by
      rw [machine_move]
      rcases turns_cases session move with none | ⟨turn, one⟩
      · rw [none]
        exact ⟨rfl, rfl⟩
      · obtain ⟨attempts, adds⟩ := Machine.adds_take daemon settings session.machine turn
        rw [one]
        exact adds.totals_eq now
    exact ⟨later.1.trans still.1, later.2.trans still.2⟩

/-! ## What the caller has read -/

/-- Whatever the stage of the caller has come to be, there was a move of the caller that made it so.
-/
theorem exists_entry (reached : Stage → Prop) (schedule : List Move) {session : Session σ}
    (before : ¬reached session.stage)
    (after : reached (session.run daemon settings schedule).stage) :
    ∃ earlier isLate, earlier ++ [.caller isLate] <+: schedule
      ∧ ¬reached (session.run daemon settings earlier).stage
      ∧ reached ((session.run daemon settings earlier).advance isLate).stage := by
  induction schedule generalizing session with
  | nil => exact absurd after before
  | cons move schedule ih =>
    by_cases now : reached (session.move daemon settings move).stage
    · cases move with
      | worker => exact absurd now before
      | caller isLate =>
        exact ⟨[], isLate, List.cons_prefix_cons.mpr ⟨rfl, List.nil_prefix⟩, before, now⟩
    · obtain ⟨earlier, isLate, early, missing, entered⟩ := ih now after
      exact ⟨move :: earlier, isLate, List.cons_prefix_cons.mpr ⟨rfl, early⟩, missing, entered⟩

section

variable {isLate : Bool} {schedule : List Move} {sample : Sample}

/-- Where the caller has come to while it reads its numbers says what it has read just before. -/
theorem of_advance_reading :
    (∀ sent, (session.advance isLate).stage = .readingRejected sent →
        session.stage = .readingSent ∧ session.machine.worker.stats.sent = sent)
      ∧ (∀ sent rejected, (session.advance isLate).stage = .readingRequeued sent rejected →
        session.stage = .readingRejected sent ∧ session.machine.worker.stats.rejected = rejected)
      ∧ ∀ sent rejected requeued,
        (session.advance isLate).stage = .readingPending sent rejected requeued →
        session.stage = .readingRequeued sent rejected
          ∧ session.machine.worker.stats.requeued = requeued := by
  cases stage : session.stage with
  | waiting | watching | joining =>
    simp only [advance, stage]
    split <;> exact ⟨nofun, nofun, nofun⟩
  | submitting | readingPending | stopping | done =>
    simp only [advance, stage]
    exact ⟨nofun, nofun, nofun⟩
  | readingSent =>
    simp only [advance, stage]
    refine ⟨fun sent after => ?_, nofun, nofun⟩
    cases after
    exact ⟨trivial, rfl⟩
  | readingRejected =>
    simp only [advance, stage]
    refine ⟨nofun, fun sent rejected after => ?_, nofun⟩
    cases after
    exact ⟨rfl, rfl⟩
  | readingRequeued =>
    simp only [advance, stage]
    refine ⟨nofun, nofun, fun sent rejected requeued after => ?_⟩
    cases after
    exact ⟨rfl, rfl⟩

/-- Only where it reads the last number does the caller come by a sample. -/
theorem of_advance_sample (before : session.stage.sample? ≠ some sample)
    (after : (session.advance isLate).stage.sample? = some sample) :
    session.stage = .readingPending sample.sent sample.rejected sample.requeued
      ∧ session.machine.worker.pending = sample.pending := by
  cases stage : session.stage with
  | readingPending =>
    simp only [advance, stage, Stage.sample?, Option.some.injEq] at after
    subst after
    exact ⟨rfl, rfl⟩
  | waiting | watching =>
    simp only [advance, stage] at after
    split at after <;> cases after
  | submitting | readingSent | readingRejected | readingRequeued =>
    simp only [advance, stage, Stage.sample?, reduceCtorEq] at after
  | stopping | done =>
    simp only [advance, stage] at after
    exact absurd (stage ▸ after) before
  | joining =>
    simp only [advance, stage] at after
    split at after <;> exact absurd (stage ▸ after) before

/-- The moments of a schedule at which the numbers of a sample were read. -/
structure Sampled (daemon : Daemon σ) (settings : DeliverySettings) (session : Session σ)
    (first second third : List Move) (sample : Sample) : Prop where
  early : first <+: second
  late : second <+: third
  stage_first : (session.run daemon settings first).stage = .readingSent
  stage_second : (session.run daemon settings second).stage = .readingRejected sample.sent
  stage_third : (session.run daemon settings third).stage
    = .readingPending sample.sent sample.rejected sample.requeued
  sent_eq : (session.run daemon settings first).machine.worker.stats.sent = sample.sent
  rejected_eq :
    (session.run daemon settings second).machine.worker.stats.rejected = sample.rejected
  pending_eq : (session.run daemon settings third).machine.worker.pending = sample.pending

/-- **Whoever has a sample has read it**, one number after the other. -/
theorem exists_sampled (fresh : session.stage = .submitting)
    (read : (session.run daemon settings schedule).stage.sample? = some sample) :
    ∃ first second third, third <+: schedule
      ∧ Sampled daemon settings session first second third sample := by
  obtain ⟨third, _, before, missing, entered⟩ :=
    exists_entry (fun stage => stage.sample? = some sample) schedule
      (by rw [fresh]; nofun) read
  obtain ⟨stage_third, pending⟩ := of_advance_sample missing entered
  obtain ⟨between, _, early, -, entered⟩ := exists_entry
    (· = .readingPending sample.sent sample.rejected sample.requeued) third
    (by rw [fresh]; nofun) stage_third
  obtain ⟨stage_between, -⟩ := of_advance_reading.2.2 _ _ _ entered
  obtain ⟨second, _, earlier, -, entered⟩ := exists_entry
    (· = .readingRequeued sample.sent sample.rejected) between
    (by rw [fresh]; nofun) stage_between
  obtain ⟨stage_second, rejected⟩ := of_advance_reading.2.1 _ _ entered
  obtain ⟨first, _, earliest, -, entered⟩ := exists_entry
    (· = .readingRejected sample.sent) second (by rw [fresh]; nofun) stage_second
  obtain ⟨stage_first, sent⟩ := of_advance_reading.1 _ entered
  have shorter {some more : List Move} {move : Move} (whole : some ++ [move] <+: more) :
      some <+: more := (List.prefix_append some [move]).trans whole
  exact ⟨first, second, third, shorter before, shorter earliest,
    (shorter earlier).trans (shorter early), stage_first, stage_second, stage_third, sent,
    rejected, pending⟩

end

end Cli.Session

end JobHooks
