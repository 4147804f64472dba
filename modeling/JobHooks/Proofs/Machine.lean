import JobHooks.Proofs.Pass
import Mathlib.Logic.Function.Basic

/-!
# One action at a time

`Worker.pass` makes a whole pass at once.  A `Machine` is the worker in the midst of it: it looks at
the request to stop, polls, reads how many events are waiting, receives them one by one, calls for
one event, reports and counts what has settled it, or hands one event over again, and between any
two of these actions the producers may hand over events of their own.  A schedule says whose turn it
is.

The two agree: turns of the worker that nobody comes between make the pass that `Worker.pass` makes
(`Machine.exists_undisturbed`).
-/

namespace JobHooks

set_option autoImplicit false

/-- What a deferral will come to, as far as it has got. -/
structure Deferral where
  sent : Nat
  rejected : Nat
  hookType : HookType
  detail : String
  reason : String
  requeued : Nat := 0
  deriving Repr, DecidableEq, Inhabited

/-- How an event was settled: it was accepted, or it was rejected with what its call left in the
context. -/
inductive Settlement where
  | accepted
  | rejected (detail : String) (status : Status)
  deriving Repr, DecidableEq, Inhabited

namespace Settlement

/-- What is reported of it. -/
def notice (hookType : HookType) : Settlement → Notice
  | accepted => .sent hookType
  | rejected detail status => .rejected hookType detail status

/-- What it adds to the number of events that were accepted. -/
def sentCount : Settlement → Nat
  | accepted => 1
  | rejected _ _ => 0

/-- What it adds to the number of events that were rejected. -/
def rejectedCount : Settlement → Nat
  | accepted => 0
  | rejected _ _ => 1

end Settlement

/-- What the worker is about to do. -/
inductive Phase where
  /-- To look at the request to stop. -/
  | resting
  /-- To poll the daemon. -/
  | polling
  /-- To read how many events are waiting. -/
  | sizing
  /-- To receive an event, one of so many that are missing from the batch. -/
  | taking (missing : Nat) (batch : List Event)
  /-- To call for an event, with others behind it. -/
  | sending (event : Event) (rest : List Event) (sent rejected : Nat)
  /-- To report and to count what has settled an event, with others behind it. -/
  | counting (event : Event) (settlement : Settlement) (rest : List Event) (sent rejected : Nat)
  /-- To hand an event over again, with others behind it. -/
  | returning (deferral : Deferral) (event : Event) (rest : List Event)
  /-- Nothing any more: a poll or a call has panicked. -/
  | dead (panic : Panic) (lost : List Event)
  deriving Repr, DecidableEq, Inhabited

namespace Phase

/-- The part of the batch that the worker holds; what is settled is no part of it any more. -/
def held : Phase → List Event
  | resting | polling | sizing | dead _ _ => []
  | taking _ batch => batch
  | sending event rest _ _ | returning _ event rest => event :: rest
  | counting _ _ rest _ _ => rest

/-- What was lost when a call panicked. -/
def lost : Phase → List Event
  | dead _ lost => lost
  | resting | polling | sizing | taking _ _ | sending _ _ _ _ | counting _ _ _ _ _
  | returning _ _ _ => []

/-- What the worker turns to when a call for an event has been answered. -/
def answered {σ : Type} (event : Event) (rest : List Event) (sent rejected : Nat)
    (reaction : CallReaction σ) : Phase :=
  match reaction.answer with
  | .error panic => dead panic (event :: rest)
  | .ok (.ok ()) => counting event .accepted rest sent rejected
  | .ok (.error status) =>
    if status.isTransient then
      let deferral : Deferral :=
        { sent, rejected
          hookType := event.hookType
          detail := reaction.context.detail
          reason := status.message }
      returning deferral event rest
    else counting event (.rejected reaction.context.detail status) rest sent rejected

section

variable {σ : Type} {reaction : CallReaction σ} {event : Event} {rest : List Event}
  {sent rejected : Nat}

theorem answered_of_accepted (answer : reaction.answer = .ok (.ok ())) :
    answered event rest sent rejected reaction = counting event .accepted rest sent rejected := by
  simp only [answered, answer]

theorem answered_of_rejected {status : Status} (answer : reaction.answer = .ok (.error status))
    (final : status.isTransient = false) :
    answered event rest sent rejected reaction
      = counting event (.rejected reaction.context.detail status) rest sent rejected := by
  simp only [answered, answer, final, Bool.false_eq_true, if_false]

end

end Phase

/-- Whose turn it is. -/
inductive Turn where
  | worker
  /-- A producer hands over what comes next in its program. -/
  | producer (who : Nat)
  /-- The request to stop is given or taken back. -/
  | stop (stop : Bool)
  deriving Repr, DecidableEq, Inhabited

/-- The worker in the midst of a pass, what it shares with the producers, and what each producer has
still to hand over.  What was handed over, what passes have come to and what happened in their course
are kept. -/
structure Machine (σ : Type) where
  phase : Phase := .resting
  worker : Worker σ
  programs : Nat → List Payload
  handedOver : List Event := []
  outcomes : List PassOutcome := []
  trace : Trace := []

namespace Machine

variable {σ : Type}

/-! ## The actions of the worker -/

/-- Something happens to the worker. -/
def record (trace : Trace) (worker : Worker σ) (machine : Machine σ) : Machine σ :=
  { machine with
    worker
    handedOver := machine.handedOver ++ trace.arrived
    trace := machine.trace ++ trace }

/-- A pass is over. -/
def finish (outcome : PassOutcome) (machine : Machine σ) : Machine σ :=
  { machine with phase := .resting, outcomes := machine.outcomes ++ [outcome] }

/-- The worker turns to the rest of its batch. -/
def proceed (sent rejected : Nat) : List Event → Machine σ → Machine σ
  | [], machine => machine.finish (.drained sent rejected)
  | event :: rest, machine => { machine with phase := .sending event rest sent rejected }

/-- The worker has received its batch. -/
def begin (batch : List Event) (machine : Machine σ) : Machine σ :=
  let stats := machine.worker.stats
  let worker :=
    { machine.worker with
      stats := { stats with dequeued := stats.dequeued + UInt64.ofNat batch.length } }
  (machine.record [.taken batch, .noted (.dequeued batch.length)] worker).proceed 0 0 batch

/-- The worker receives one event, unless nothing is waiting. -/
def receive (missing : Nat) (batch : List Event) (machine : Machine σ) : Machine σ :=
  match machine.worker.queue.dequeueUpTo 1 with
  | ([], _) => machine.begin batch
  | (event :: _, left) =>
    let machine := { machine with worker := { machine.worker with queue := left } }
    if missing ≤ 1 then machine.begin (batch ++ [event])
    else { machine with phase := .taking (missing - 1) (batch ++ [event]) }

/-- The worker hands one event over again. -/
def handBack (deferral : Deferral) (event : Event) (rest : List Event) (machine : Machine σ) :
    Machine σ :=
  let worker := { machine.worker with queue := machine.worker.queue.enqueue event }
  let deferral := { deferral with requeued := deferral.requeued + 1 }
  match rest with
  | [] =>
    (machine.record
      [.noted (.deferred deferral.hookType deferral.requeued deferral.detail deferral.reason)]
      (worker.credit 0 0 deferral.requeued)).finish
        (.deferred deferral.sent deferral.rejected deferral.requeued)
  | event :: rest => { machine with worker, phase := .returning deferral event rest }

/-- The worker reports and counts what has settled an event, and turns to the others. -/
def count (event : Event) (settlement : Settlement) (rest : List Event) (sent rejected : Nat)
    (machine : Machine σ) : Machine σ :=
  (machine.record [.noted (settlement.notice event.hookType)]
    (machine.worker.credit settlement.sentCount settlement.rejectedCount 0)).proceed
      (sent + settlement.sentCount) (rejected + settlement.rejectedCount) rest

variable (daemon : Daemon σ) (settings : DeliverySettings)

/-- The worker polls the daemon. -/
def poll (machine : Machine σ) : Machine σ :=
  let worker := machine.worker
  let polled := Worker.polled daemon worker
  match (Worker.polling daemon worker).answer with
  | .error panic =>
    { machine.record (Worker.pollTrace daemon [] worker) polled with phase := .dead panic [] }
  | .ok connected =>
    let noted := machine.record
      (Worker.pollTrace daemon (polled.monitor.notices connected) worker) (polled.observed connected)
    if connected then { noted with phase := .sizing } else noted.finish .disconnected

/-- The worker calls for an event. -/
def call (event : Event) (rest : List Event) (sent rejected : Nat) (machine : Machine σ) :
    Machine σ :=
  let reaction := Worker.reaction daemon settings event machine.worker
  let called := Worker.called daemon settings event machine.worker
  { machine.record (Worker.attemptTrace daemon settings event machine.worker) called with
    phase := .answered event rest sent rejected reaction }

/-- One action of the worker. -/
def work (machine : Machine σ) : Machine σ :=
  match machine.phase with
  | .resting =>
    if machine.worker.stop then machine.finish .stopped else { machine with phase := .polling }
  | .polling => machine.poll daemon
  | .sizing =>
    if machine.worker.pending = 0 then machine.finish .idle
    else { machine with phase := .taking machine.worker.pending [] }
  | .taking missing batch => machine.receive missing batch
  | .sending event rest sent rejected => machine.call daemon settings event rest sent rejected
  | .counting event settlement rest sent rejected =>
    machine.count event settlement rest sent rejected
  | .returning deferral event rest => machine.handBack deferral event rest
  | .dead _ _ => machine

/-! ## Schedules -/

/-- A producer hands over what comes next in its program, if anything. -/
def produce (who : Nat) (machine : Machine σ) : Machine σ :=
  match machine.programs who with
  | [] => machine
  | payload :: program =>
    { machine with
      worker := machine.worker.enqueue [payload]
      programs := Function.update machine.programs who program
      handedOver := machine.handedOver ++ Event.numbered machine.worker.arrivals [payload] }

/-- One turn. -/
def take (machine : Machine σ) : Turn → Machine σ
  | .worker => machine.work daemon settings
  | .producer who => machine.produce who
  | .stop stop => { machine with worker := machine.worker.setStop stop }

/-- The turns of a schedule, one after the other. -/
def run (schedule : List Turn) (machine : Machine σ) : Machine σ :=
  schedule.foldl (take daemon settings) machine

/-- A machine that nothing has happened to, for any number of producers. -/
def fresh (settings : DeliverySettings) (state : σ) (programs : Nat → List Payload) :
    Machine σ where
  worker := .fresh settings state
  programs

/-! ## Undisturbed turns of the worker -/

/-- The machine after everything that `progress` tells of; `lost` is what a panic loses. -/
def complete (progress : Progress σ PassOutcome) (lost : List Event) (machine : Machine σ) :
    Machine σ :=
  match progress.outcome with
  | .ok outcome => (machine.record progress.trace progress.worker).finish outcome
  | .error panic =>
    { machine.record progress.trace progress.worker with phase := .dead panic lost }

/-- Turns of the worker alone lead from one machine to the other. -/
def Reaches (machine after : Machine σ) : Prop :=
  ∃ turns : Nat, run daemon settings (List.replicate turns .worker) machine = after

variable {daemon settings} {machine between after : Machine σ}

theorem Reaches.refl (machine : Machine σ) : Reaches daemon settings machine machine := ⟨0, rfl⟩

theorem Reaches.trans (first : Reaches daemon settings machine between)
    (second : Reaches daemon settings between after) : Reaches daemon settings machine after := by
  obtain ⟨turns, rfl⟩ := first
  obtain ⟨more, rfl⟩ := second
  refine ⟨turns + more, ?_⟩
  rw [← List.replicate_append_replicate, run, List.foldl_append]
  rfl

/-- One action and then others. -/
theorem Reaches.head (action : machine.work daemon settings = between)
    (rest : Reaches daemon settings between after) : Reaches daemon settings machine after := by
  obtain ⟨turns, rfl⟩ := rest
  exact ⟨turns + 1, action ▸ rfl⟩

theorem record_nil (machine : Machine σ) : machine.record [] machine.worker = machine := by
  simp only [record, Trace.arrived, List.flatMap_nil, List.append_nil]

theorem record_record (earlier later : Trace) (worker next : Worker σ) :
    (machine.record earlier worker).record later next = machine.record (earlier ++ later) next := by
  simp only [record, Trace.arrived_append, List.append_assoc]

/-- What was recorded before becomes part of the progress. -/
theorem complete_record (trace : Trace) (worker : Worker σ) (progress : Progress σ PassOutcome)
    (lost : List Event) :
    (machine.record trace worker).complete progress lost
      = machine.complete (progress.after trace) lost := by
  cases progress with
  | mk outcome later next =>
    cases outcome <;> simp only [complete, Progress.after, record_record]

/-- The rest of a batch is handed over again in its order. -/
theorem reaches_returned (deferral : Deferral) (event : Event) (rest : List Event)
    (machine : Machine σ) :
    let requeued := deferral.requeued + (event :: rest).length
    Reaches daemon settings { machine with phase := .returning deferral event rest }
      ((machine.record
        [.noted (.deferred deferral.hookType requeued deferral.detail deferral.reason)]
        ((machine.worker.giveBack (event :: rest)).credit 0 0 requeued)).finish
          (.deferred deferral.sent deferral.rejected requeued)) := by
  induction rest generalizing deferral event machine with
  | nil => exact .head rfl (.refl _)
  | cons next rest ih =>
    have later := ih { deferral with requeued := deferral.requeued + 1 } next
      { machine with worker := machine.worker.giveBack [event] }
    have number : deferral.requeued + 1 + (next :: rest).length
        = deferral.requeued + (event :: next :: rest).length := by
      simp only [List.length_cons]
      omega
    have queue : (machine.worker.giveBack [event]).giveBack (next :: rest)
        = machine.worker.giveBack (event :: next :: rest) := by
      simp only [Worker.giveBack, Queue.enqueueAll, List.append_assoc, List.singleton_append]
    simp only [number, queue] at later
    exact .head rfl later

/-! ### The four ways on from a call -/

section

variable {event : Event} {rest : List Event} {sent rejected : Nat}

theorem work_of_panic {panic : Panic}
    (answer : (Worker.reaction daemon settings event machine.worker).answer = .error panic) :
    (machine.proceed sent rejected (event :: rest)).work daemon settings
      = machine.complete ⟨.error panic, Worker.attemptTrace daemon settings event machine.worker,
          Worker.called daemon settings event machine.worker⟩ (event :: rest) := by
  simp only [proceed, work, call, Phase.answered, answer]
  rfl

theorem work_of_unavailable {status : Status}
    (answer : (Worker.reaction daemon settings event machine.worker).answer = .ok (.error status))
    (transient : status.isTransient = true) :
    (machine.proceed sent rejected (event :: rest)).work daemon settings
      = { machine.record (Worker.attemptTrace daemon settings event machine.worker)
            (Worker.called daemon settings event machine.worker) with
          phase := .returning
            { sent, rejected
              hookType := event.hookType
              detail := (Worker.reaction daemon settings event machine.worker).context.detail
              reason := status.message } event rest } := by
  simp only [proceed, work, call, Phase.answered, answer, transient, if_true]
  rfl

theorem work_of_counting (settlement : Settlement) (machine : Machine σ) :
    { machine with phase := .counting event settlement rest sent rejected }.work daemon settings
      = (machine.record [.noted (settlement.notice event.hookType)]
          (machine.worker.credit settlement.sentCount settlement.rejectedCount 0)).proceed
          (sent + settlement.sentCount) (rejected + settlement.rejectedCount) rest := by
  cases rest <;> rfl

/-- An event is settled at one turn and counted at the next. -/
theorem reaches_counted (settlement : Settlement)
    (answered : Phase.answered event rest sent rejected
        (Worker.reaction daemon settings event machine.worker)
      = .counting event settlement rest sent rejected) :
    Reaches daemon settings (machine.proceed sent rejected (event :: rest))
      ((machine.record
        (Worker.attemptTrace daemon settings event machine.worker
          ++ [.noted (settlement.notice event.hookType)])
        ((Worker.called daemon settings event machine.worker).credit settlement.sentCount
          settlement.rejectedCount 0)).proceed
          (sent + settlement.sentCount) (rejected + settlement.rejectedCount) rest) := by
  let trace := Worker.attemptTrace daemon settings event machine.worker
  let called := Worker.called daemon settings event machine.worker
  have action : (machine.proceed sent rejected (event :: rest)).work daemon settings
      = { machine.record trace called with
          phase := .counting event settlement rest sent rejected } := by
    rw [← answered]
    rfl
  have both : (machine.record trace called).record [.noted (settlement.notice event.hookType)]
        (called.credit settlement.sentCount settlement.rejectedCount 0)
      = machine.record (trace ++ [.noted (settlement.notice event.hookType)]) _ :=
    record_record _ _ _ _
  rw [← both]
  exact .head action (.head (work_of_counting settlement _) (.refl _))

/-- **The four ways on from a call**, each with its verdict. -/
theorem answered_cases (daemon : Daemon σ) (settings : DeliverySettings) (event : Event)
    (rest : List Event) (sent rejected : Nat) (worker : Worker σ) :
    let after :=
      Phase.answered event rest sent rejected (Worker.reaction daemon settings event worker)
    let verdict := (Worker.attempt daemon settings event worker).verdict
    (verdict = .panicked ∧ ∃ panic, after = .dead panic (event :: rest))
      ∨ (verdict = .accepted ∧ after = .counting event .accepted rest sent rejected)
      ∨ (verdict = .unavailable ∧ ∃ deferral, after = .returning deferral event rest)
      ∨ (verdict = .rejected ∧ ∃ detail status,
        after = .counting event (.rejected detail status) rest sent rejected) := by
  intro after verdict
  have found : verdict = .ofAnswer (Worker.reaction daemon settings event worker).answer := rfl
  cases answer : (Worker.reaction daemon settings event worker).answer with
  | error panic =>
    rw [answer] at found
    simp only [after, Phase.answered, answer]
    exact .inl ⟨found, _, rfl⟩
  | ok result =>
    cases result with
    | ok =>
      rw [answer] at found
      exact .inr (.inl ⟨found, Phase.answered_of_accepted answer⟩)
    | error status =>
      rw [answer, Verdict.ofAnswer] at found
      cases transient : status.isTransient with
      | true =>
        rw [transient, if_pos rfl] at found
        simp only [after, Phase.answered, answer, transient, if_true]
        exact .inr (.inr (.inl ⟨found, _, rfl⟩))
      | false =>
        rw [transient, if_neg Bool.false_ne_true] at found
        exact .inr (.inr (.inr
          ⟨found, _, _, Phase.answered_of_rejected answer transient⟩))

end

/-- The rest of a batch is sent. -/
theorem reaches_sent (batch : List Event) (sent rejected : Nat) (machine : Machine σ) :
    ∃ lost, Reaches daemon settings (machine.proceed sent rejected batch)
      (machine.complete
        (Worker.sendInOrder daemon settings batch sent rejected machine.worker) lost) := by
  induction batch generalizing sent rejected machine with
  | nil =>
    refine ⟨[], ?_⟩
    have nothing : machine.complete
        (Worker.sendInOrder daemon settings [] sent rejected machine.worker) []
        = (machine.record [] machine.worker).finish (.drained sent rejected) := rfl
    rw [nothing, record_nil]
    exact .refl _
  | cons event rest ih =>
    cases answer : (Worker.reaction daemon settings event machine.worker).answer with
    | error panic =>
      refine ⟨event :: rest, .head (work_of_panic answer) ?_⟩
      rw [Worker.sendInOrder_of_panic rest sent rejected answer]
      exact .refl _
    | ok result =>
      cases result with
      | ok =>
        obtain ⟨lost, later⟩ := ih (sent + 1) rejected (machine.record _ _)
        refine ⟨lost, .trans (reaches_counted .accepted (Phase.answered_of_accepted answer)) ?_⟩
        rw [Worker.sendInOrder_of_accepted rest sent rejected answer, ← complete_record]
        exact later
      | error status =>
        cases transient : status.isTransient with
        | true =>
          refine ⟨[], .head (work_of_unavailable answer transient) ?_⟩
          have returned : Reaches daemon settings _ _ := reaches_returned
            { sent, rejected
              hookType := event.hookType
              detail := (Worker.reaction daemon settings event machine.worker).context.detail
              reason := status.message } event rest
            (machine.record (Worker.attemptTrace daemon settings event machine.worker)
              (Worker.called daemon settings event machine.worker))
          rw [Worker.sendInOrder_of_unavailable rest sent rejected answer transient]
          simp only [Nat.zero_add, record_record] at returned
          exact returned
        | false =>
          obtain ⟨lost, later⟩ := ih sent (rejected + 1) (machine.record _ _)
          refine ⟨lost,
            .trans (reaches_counted _ (Phase.answered_of_rejected answer transient)) ?_⟩
          rw [Worker.sendInOrder_of_rejected rest sent rejected answer transient, ← complete_record]
          exact later

/-- One event is received, and others are missing. -/
theorem work_of_more {missing : Nat} {batch waiting : List Event} {event : Event}
    (queue : machine.worker.queue.toList = event :: waiting) :
    { machine with phase := .taking (missing + 2) batch }.work daemon settings
      = { machine with
          phase := .taking (missing + 1) (batch ++ [event])
          worker := { machine.worker with
            queue := { machine.worker.queue with waiting } } } := by
  have same : machine.worker.queue.waiting = event :: waiting := queue
  have several : ¬missing + 2 ≤ 1 := by omega
  simp only [work, receive, Queue.dequeueUpTo, same, List.take_succ_cons, List.take_zero,
    List.drop_succ_cons, List.drop_zero, if_neg several]
  rfl

/-- The last one that is missing is received. -/
theorem work_of_last {batch waiting : List Event} {event : Event}
    (queue : machine.worker.queue.toList = event :: waiting) :
    { machine with phase := .taking 1 batch }.work daemon settings
      = { machine with
          worker := { machine.worker with
            queue := { machine.worker.queue with waiting } } }.begin (batch ++ [event]) := by
  have same : machine.worker.queue.waiting = event :: waiting := queue
  obtain ⟨first, rest, whole⟩ : ∃ first rest, batch ++ [event] = first :: rest :=
    List.exists_cons_of_ne_nil (List.append_ne_nil_of_right_ne_nil _ (List.cons_ne_nil _ _))
  simp only [work, receive, Queue.dequeueUpTo, same, List.take_succ_cons, List.take_zero,
    List.drop_succ_cons, List.drop_zero, Nat.le_refl, if_true, whole]
  rfl

/-- What was waiting is received. -/
theorem reaches_begin (event : Event) (waiting batch : List Event) (machine : Machine σ)
    (queue : machine.worker.queue.toList = event :: waiting) :
    Reaches daemon settings { machine with phase := .taking (event :: waiting).length batch }
      ({ machine with worker :=
          { machine.worker with queue := { machine.worker.queue with waiting := [] } } }.begin
        (batch ++ event :: waiting)) := by
  induction waiting generalizing event batch machine with
  | nil => exact .head (work_of_last queue) (.refl _)
  | cons next waiting ih =>
    refine .head (work_of_more queue) ?_
    have later := ih next (batch ++ [event])
      { machine with worker :=
        { machine.worker with queue := { machine.worker.queue with waiting := next :: waiting } } }
      rfl
    rw [List.append_assoc] at later
    exact later

/-- What is waiting is received and sent. -/
theorem reaches_drained (machine : Machine σ) :
    ∃ lost, Reaches daemon settings { machine with phase := .sizing }
      (machine.complete (machine.worker.drain daemon settings) lost) := by
  cases queue : machine.worker.queue.toList with
  | nil =>
    have nothing : machine.worker.pending = 0 := List.length_eq_zero_iff.mpr queue
    have idle : { machine with phase := .sizing }.work daemon settings
        = machine.complete (machine.worker.drain daemon settings) [] := by
      rw [Worker.drain_of_nothing queue, complete, record_nil]
      simp only [work, nothing, if_true]
      rfl
    exact ⟨[], .head idle (.refl _)⟩
  | cons event waiting =>
    have some : machine.worker.pending = (event :: waiting).length := congrArg List.length queue
    have sized : { machine with phase := .sizing }.work daemon settings
        = { machine with phase := .taking (event :: waiting).length [] } := by
      simp only [work, some]
      rfl
    have received : Reaches daemon settings _ _ := reaches_begin event waiting [] machine queue
    rw [List.nil_append] at received
    let begun := machine.record
      [.taken (event :: waiting), .noted (.dequeued (event :: waiting).length)]
      machine.worker.emptied
    have begins : { machine with worker :=
          { machine.worker with queue := { machine.worker.queue with waiting := [] } } }.begin
        (event :: waiting) = begun.proceed 0 0 (event :: waiting) := by
      simp only [begin, begun, Worker.emptied, queue]
      rfl
    rw [begins] at received
    obtain ⟨lost, sent⟩ : ∃ lost, Reaches daemon settings _ (begun.complete _ lost) :=
      reaches_sent (event :: waiting) 0 0 begun
    refine ⟨lost, .head sized (.trans received ?_)⟩
    rw [Worker.drain_of_waiting (by rw [queue]; exact List.cons_ne_nil _ _), queue,
      ← complete_record]
    exact sent

/-- **A pass that nobody disturbs is a pass of the worker.** -/
theorem exists_undisturbed (daemon : Daemon σ) (settings : DeliverySettings) (machine : Machine σ)
    (resting : machine.phase = .resting) :
    ∃ lost, Reaches daemon settings machine
      (machine.complete (machine.worker.pass daemon settings) lost) := by
  cases stop : machine.worker.stop with
  | true =>
    have stopped : machine.work daemon settings = machine.finish .stopped := by
      rw [work, resting, stop]
      rfl
    refine ⟨[], .head stopped ?_⟩
    rw [Worker.pass_of_stop stop, complete, record_nil]
    exact .refl _
  | false =>
    have going : machine.work daemon settings = { machine with phase := .polling } := by
      rw [work, resting, stop]
      rfl
    cases answer : (Worker.polling daemon machine.worker).answer with
    | error panic =>
      have panicked : { machine with phase := .polling }.work daemon settings
          = machine.complete (machine.worker.pass daemon settings) [] := by
        rw [Worker.pass_of_panic stop answer]
        simp only [work, poll, answer]
        rfl
      exact ⟨[], .head going (.head panicked (.refl _))⟩
    | ok connected =>
      cases connected with
      | false =>
        have missed : { machine with phase := .polling }.work daemon settings
            = machine.complete (machine.worker.pass daemon settings) [] := by
          rw [Worker.pass_of_disconnected stop answer]
          simp only [work, poll, answer]
          rfl
        exact ⟨[], .head going (.head missed (.refl _))⟩
      | true =>
        let noted := machine.record
          (Worker.pollTrace daemon ((Worker.polled daemon machine.worker).monitor.notices true)
            machine.worker)
          ((Worker.polled daemon machine.worker).observed true)
        have reached : { machine with phase := .polling }.work daemon settings
            = { noted with phase := .sizing } := by
          simp only [work, poll, answer]
          rfl
        obtain ⟨lost, drained⟩ : ∃ lost, Reaches daemon settings { noted with phase := .sizing }
          (noted.complete (noted.worker.drain daemon settings) lost) := reaches_drained noted
        refine ⟨lost, .head going (.head reached ?_)⟩
        rw [Worker.pass_of_connected stop answer, ← complete_record]
        exact drained

end Machine

end JobHooks
