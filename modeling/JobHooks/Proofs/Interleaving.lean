import JobHooks.Proofs.Machine
import Mathlib.Data.Multiset.AddSub

/-!
# Interleavings

Any number of producers hand over what their programs say, while the worker is in the midst of its
passes, and a schedule says whose turn it is.  Whatever the schedule is, `Machine.interleaving_safe`
says three things.  Every event that was handed over is in one place: it is waiting, the worker holds
it, it is settled, or it was lost with a panic.  The batch of a pass is what was at the front of the
queue when the worker read how many events were waiting.  And events that go back to the queue stand
there in the order of their batch, with nothing between them but what was handed over meanwhile.
-/

namespace JobHooks

set_option autoImplicit false

/-! ## Merging two lists -/

/-- Two lists are merged into a third one, each in its own order. -/
inductive Merged {α : Type} : List α → List α → List α → Prop
  | nil : Merged [] [] []
  | left {element : α} {first second whole : List α} (rest : Merged first second whole) :
      Merged (element :: first) second (element :: whole)
  | right {element : α} {first second whole : List α} (rest : Merged first second whole) :
      Merged first (element :: second) (element :: whole)

namespace Merged

variable {α : Type} {first second whole : List α}

/-- A list and nothing. -/
theorem nil_right (list : List α) : Merged [] list list := by
  induction list with
  | nil => exact .nil
  | cons element list ih => exact .right ih

/-- The second list may begin with more. -/
theorem append_right (more : List α) (rest : Merged first second whole) :
    Merged first (more ++ second) (more ++ whole) := by
  induction more with
  | nil => exact rest
  | cons element more ih => exact .right ih

end Merged

/-! ## Batches -/

namespace Trace

/-- The batches that were taken. -/
def batches (trace : Trace) : List (List Event) :=
  trace.filterMap fun
    | .taken batch => some batch
    | _ => none

@[simp] theorem batches_append (earlier later : Trace) :
    batches (earlier ++ later) = batches earlier ++ batches later :=
  List.filterMap_append

@[simp] theorem batches_map_noted (notices : List Notice) : batches (notices.map .noted) = [] :=
  filterMap_noted (fun _ => rfl) notices

end Trace

namespace Worker

variable {σ : Type} (daemon : Daemon σ) (settings : DeliverySettings) (worker : Worker σ)

@[simp] theorem batches_attemptTrace (event : Event) :
    (attemptTrace daemon settings event worker).batches = [] := by
  obtain ⟨notices, same⟩ := attemptTrace_eq daemon settings event worker
  rw [same, Trace.batches_append, Trace.batches_map_noted]
  rfl

end Worker

namespace Phase

/-- The part of a batch that is not settled once the batch has been received. -/
def left : Phase → List Event
  | resting | polling | sizing | taking _ _ => []
  | sending event rest _ _ | returning _ event rest => event :: rest
  | counting _ _ rest _ _ => rest
  | dead _ lost => lost

/-- What the worker turns to with a batch that it has received. -/
def ofBatch : List Event → Phase
  | [] => resting
  | event :: rest => sending event rest 0 0

end Phase

namespace Machine

variable {σ : Type} {daemon : Daemon σ} {settings : DeliverySettings} {machine : Machine σ}

/-! ## Where the events are -/

/-- The events that are waiting, those that the worker holds, and those that are settled or lost. -/
def places (machine : Machine σ) : List Event :=
  machine.worker.queue.toList ++ machine.phase.held
    ++ Attempts.settled machine.trace.attempts ++ machine.phase.lost

/-- The last batch that was received. -/
def lastBatch (machine : Machine σ) : List Event := machine.trace.batches.getLast?.getD []

/-- Every event that was handed over has a number of its own and is in one place, and what is left
of a batch is its end. -/
structure Accounted (machine : Machine σ) : Prop where
  consecutive : Event.Consecutive 0 machine.handedOver
  arrivals_eq : machine.worker.arrivals = machine.handedOver.length
  perm : machine.handedOver.Perm machine.places
  left_suffix : machine.phase.left <:+ machine.lastBatch

/-- What a turn does to the account: some events are handed over and join the others. -/
structure Joins (before after : Machine σ) (arrived : List Event) : Prop where
  handedOver_eq : after.handedOver = before.handedOver ++ arrived
  consecutive : Event.Consecutive before.worker.arrivals arrived
  arrivals_eq : after.worker.arrivals = before.worker.arrivals + arrived.length
  perm : (before.places ++ arrived).Perm after.places
  left_suffix : before.phase.left <:+ before.lastBatch → after.phase.left <:+ after.lastBatch

theorem Accounted.join {after : Machine σ} {arrived : List Event} (accounted : machine.Accounted)
    (joins : Joins machine after arrived) : after.Accounted where
  consecutive := by
    have later := joins.consecutive
    rw [accounted.arrivals_eq, ← Nat.zero_add machine.handedOver.length] at later
    rw [joins.handedOver_eq]
    exact accounted.consecutive.append later
  arrivals_eq := by
    rw [joins.arrivals_eq, accounted.arrivals_eq, joins.handedOver_eq, List.length_append]
  perm := by
    rw [joins.handedOver_eq]
    exact (accounted.perm.append_right arrived).trans joins.perm
  left_suffix := joins.left_suffix accounted.left_suffix

section

variable (sent rejected : Nat) (batch : List Event)

@[simp] theorem worker_proceed : (machine.proceed sent rejected batch).worker = machine.worker := by
  cases batch <;> rfl

@[simp] theorem trace_proceed : (machine.proceed sent rejected batch).trace = machine.trace := by
  cases batch <;> rfl

@[simp] theorem handedOver_proceed :
    (machine.proceed sent rejected batch).handedOver = machine.handedOver := by
  cases batch <;> rfl

@[simp] theorem phase_proceed_zero :
    (machine.proceed 0 0 batch).phase = .ofBatch batch := by
  cases batch <;> rfl

@[simp] theorem held_proceed : (machine.proceed sent rejected batch).phase.held = batch := by
  cases batch <;> rfl

@[simp] theorem left_proceed : (machine.proceed sent rejected batch).phase.left = batch := by
  cases batch <;> rfl

@[simp] theorem lost_proceed : (machine.proceed sent rejected batch).phase.lost = [] := by
  cases batch <;> rfl

end

/-- A turn at which nothing is handed over or moved. -/
theorem Joins.of_still {after : Machine σ} (handedOver : after.handedOver = machine.handedOver)
    (arrivals : after.worker.arrivals = machine.worker.arrivals)
    (queue : after.worker.queue = machine.worker.queue)
    (attempts : after.trace.attempts = machine.trace.attempts)
    (batches : after.trace.batches = machine.trace.batches)
    (held : after.phase.held = machine.phase.held) (lost : after.phase.lost = machine.phase.lost)
    (left : after.phase.left = machine.phase.left) : Joins machine after [] where
  handedOver_eq := handedOver.trans (List.append_nil _).symm
  consecutive := Event.consecutive_nil _
  arrivals_eq := arrivals
  perm := by
    rw [List.append_nil, places, places, queue, attempts, held, lost]
  left_suffix := by
    rw [left, lastBatch, lastBatch, batches]
    exact id

theorem joins_produce (who : Nat) (machine : Machine σ) :
    ∃ arrived, Joins machine (machine.produce who) arrived := by
  rw [produce]
  split
  · exact ⟨[], .of_still rfl rfl rfl rfl rfl rfl rfl rfl⟩
  · rename_i payload program _
    refine ⟨_, rfl, Event.consecutive_numbered _ _, ?_, ?_, id⟩
    · rw [Event.length_numbered]
      rfl
    · rw [List.perm_iff_count]
      intro event
      simp only [places, Worker.enqueue, Queue.toList_enqueueAll, List.count_append]
      omega

/-- A poll moves nothing; what is handed over meanwhile joins what is waiting. -/
theorem Joins.of_poll {after : Machine σ} {reported : List Notice}
    (polling : machine.phase = .polling)
    (handedOver : after.handedOver = machine.handedOver
      ++ (Worker.pollTrace daemon reported machine.worker).arrived)
    (trace : after.trace = machine.trace ++ Worker.pollTrace daemon reported machine.worker)
    (queue : after.worker.queue = (Worker.polled daemon machine.worker).queue)
    (arrivals : after.worker.arrivals = (Worker.polled daemon machine.worker).arrivals)
    (held : after.phase.held = []) (lost : after.phase.lost = []) (left : after.phase.left = []) :
    Joins machine after
      (machine.worker.meanwhile (Worker.polling daemon machine.worker).effects).arrived where
  handedOver_eq := by rw [handedOver, Worker.arrived_pollTrace]
  consecutive := Worker.consecutive_meanwhile _ _
  arrivals_eq := arrivals.trans (Worker.arrivals_absorb _ _ _)
  perm := by
    rw [places, places, held, lost, queue, trace, polling, Trace.attempts_append,
      Worker.attempts_pollTrace, Worker.polled, Worker.toList_absorb, List.perm_iff_count]
    intro event
    simp only [Phase.held, Phase.lost, List.count_append, List.append_nil]
    omega
  left_suffix := by
    rw [left]
    exact fun _ => List.nil_suffix

theorem joins_poll (polling : machine.phase = .polling) :
    ∃ arrived, Joins machine (machine.poll daemon) arrived := by
  cases answer : (Worker.polling daemon machine.worker).answer with
  | error panic =>
    simp only [poll, answer]
    exact ⟨_, .of_poll polling rfl rfl rfl rfl rfl rfl rfl⟩
  | ok connected =>
    cases connected <;> simp only [poll, answer]
    · exact ⟨_, .of_poll polling rfl rfl rfl rfl rfl rfl rfl⟩
    · exact ⟨_, .of_poll polling rfl rfl rfl rfl rfl rfl rfl⟩

/-- The worker begins with its batch once it has received the last event of it, or none was left. -/
theorem joins_begin {before : Machine σ} {batch : List Event}
    (handedOver : machine.handedOver = before.handedOver)
    (arrivals : machine.worker.arrivals = before.worker.arrivals)
    (perm : before.places.Perm
      (machine.worker.queue.toList ++ batch ++ Attempts.settled machine.trace.attempts)) :
    Joins before (machine.begin batch) [] where
  handedOver_eq := by
    rw [begin, handedOver_proceed, List.append_nil, record, handedOver]
    exact List.append_nil _
  consecutive := Event.consecutive_nil _
  arrivals_eq := by
    rw [begin, worker_proceed]
    exact arrivals
  perm := by
    have attempts : Trace.attempts [.taken batch, .noted (.dequeued batch.length)] = [] := rfl
    simp only [begin, places, worker_proceed, trace_proceed, held_proceed, lost_proceed, record,
      Trace.attempts_append, attempts, List.append_nil]
    exact perm
  left_suffix := by
    have batches : Trace.batches [.taken batch, .noted (.dequeued batch.length)] = [batch] := rfl
    simp only [begin, lastBatch, left_proceed, trace_proceed, record, Trace.batches_append, batches,
      List.getLast?_concat, Option.getD_some]
    exact fun _ => List.suffix_rfl

theorem joins_receive {missing : Nat} {batch : List Event}
    (taking : machine.phase = .taking missing batch) :
    Joins machine (machine.receive missing batch) [] := by
  have before : machine.places
      = machine.worker.queue.toList ++ batch ++ Attempts.settled machine.trace.attempts := by
    rw [places, taking, Phase.held, Phase.lost, List.append_nil]
  cases queue : machine.worker.queue.waiting with
  | nil =>
    simp only [receive, Queue.dequeueUpTo, queue, List.take_nil]
    exact joins_begin rfl rfl (.of_eq before)
  | cons event waiting =>
    have moved : machine.places.Perm
        (waiting ++ (batch ++ [event]) ++ Attempts.settled machine.trace.attempts) := by
      rw [before, Queue.toList, queue, List.perm_iff_count]
      intro other
      simp only [List.count_append, List.count_cons, List.count_nil]
      omega
    simp only [receive, Queue.dequeueUpTo, queue, List.take_succ_cons, List.take_zero,
      List.drop_succ_cons, List.drop_zero]
    split
    · exact joins_begin rfl rfl moved
    · exact {
        handedOver_eq := (List.append_nil _).symm
        consecutive := Event.consecutive_nil _
        arrivals_eq := rfl
        perm := by
          rw [List.append_nil, places]
          exact moved.trans (.of_eq (List.append_nil _).symm)
        left_suffix := fun _ => List.nil_suffix }

section

variable {event : Event} {rest : List Event} {sent rejected : Nat}

/-- A call leaves the events where they are, but for the one that it settles. -/
theorem perm_answered (daemon : Daemon σ) (settings : DeliverySettings) (event : Event)
    (rest : List Event) (sent rejected : Nat) (worker : Worker σ) :
    let after :=
      Phase.answered event rest sent rejected (Worker.reaction daemon settings event worker)
    (event :: rest).Perm (after.held
        ++ Attempts.settled [Worker.attempt daemon settings event worker] ++ after.lost)
      ∧ after.left <:+ event :: rest := by
  intro after
  have settled : (event :: rest).Perm (rest ++ [event] ++ []) := by
    rw [List.append_nil]
    exact (List.perm_append_singleton event rest).symm
  rcases answered_cases daemon settings event rest sent rejected worker with
    ⟨verdict, _, dead⟩ | ⟨verdict, accepted⟩ | ⟨verdict, _, returning⟩ | ⟨verdict, _, _, refused⟩
  · rw [Attempts.settled_cons, verdict, show after = _ from dead]
    exact ⟨.refl _, List.suffix_rfl⟩
  · rw [Attempts.settled_cons, verdict, show after = _ from accepted]
    exact ⟨settled, List.suffix_cons _ _⟩
  · rw [Attempts.settled_cons, verdict, show after = _ from returning]
    exact ⟨.of_eq (by simp [Phase.held, Phase.lost, Verdict.settles]), List.suffix_rfl⟩
  · rw [Attempts.settled_cons, verdict, show after = _ from refused]
    exact ⟨settled, List.suffix_cons _ _⟩

/-- A call moves the event that it is made for; what is handed over meanwhile joins what is waiting.
-/
theorem joins_call (sending : machine.phase = .sending event rest sent rejected) :
    Joins machine (machine.call daemon settings event rest sent rejected)
      (Worker.attempt daemon settings event machine.worker).meanwhile.arrived where
  handedOver_eq := by
    rw [← Worker.arrived_attemptTrace]
    rfl
  consecutive := Worker.consecutive_meanwhile _ _
  arrivals_eq := Worker.arrivals_absorb _ _ _
  perm := by
    have moved := (perm_answered daemon settings event rest sent rejected machine.worker).1
    rw [List.perm_iff_count] at moved ⊢
    intro other
    have moved := moved other
    simp only [places, call, record, sending, Phase.held, Phase.lost, Worker.called,
      Worker.toList_absorb, Trace.attempts_append, Worker.attempts_attemptTrace,
      Attempts.settled_append, Worker.attempt, List.count_append, List.append_nil] at moved ⊢
    omega
  left_suffix := by
    have left := (perm_answered daemon settings event rest sent rejected machine.worker).2
    rw [sending, lastBatch, lastBatch, call, record, Trace.batches_append,
      Worker.batches_attemptTrace, List.append_nil]
    exact left.trans

/-- What is settled is counted where it is. -/
theorem joins_count {settlement : Settlement}
    (counting : machine.phase = .counting event settlement rest sent rejected) :
    Joins machine (machine.count event settlement rest sent rejected) [] := by
  have silent (notice : Notice) : Trace.attempts [.noted notice] = [] := rfl
  have single (notice : Notice) : Trace.batches [.noted notice] = [] := rfl
  refine .of_still ?_ ?_ ?_ ?_ ?_ ?_ ?_ ?_
  · rw [count, handedOver_proceed]
    exact List.append_nil _
  · rw [count, worker_proceed]
    rfl
  · rw [count, worker_proceed]
    rfl
  · rw [count, trace_proceed, record, Trace.attempts_append, silent, List.append_nil]
  · rw [count, trace_proceed, record, Trace.batches_append, single, List.append_nil]
  · rw [count, held_proceed, counting]
    rfl
  · rw [count, lost_proceed, counting]
    rfl
  · rw [count, left_proceed, counting]
    rfl

theorem joins_handBack {deferral : Deferral}
    (returning : machine.phase = .returning deferral event rest) :
    Joins machine (machine.handBack deferral event rest) [] := by
  have before : machine.places = machine.worker.queue.toList ++ event :: rest
      ++ Attempts.settled machine.trace.attempts := by
    rw [places, returning, Phase.held, Phase.lost, List.append_nil]
  have moved : machine.places.Perm (machine.worker.queue.toList ++ [event] ++ rest
      ++ Attempts.settled machine.trace.attempts) := by
    rw [before]
    exact .of_eq (by simp only [List.append_assoc, List.singleton_append])
  cases rest with
  | nil =>
    exact {
      handedOver_eq := rfl
      consecutive := Event.consecutive_nil _
      arrivals_eq := rfl
      perm := by
        have nothing : ∀ notice, Trace.attempts [.noted notice] = [] := fun _ => rfl
        simp only [handBack, places, finish, record, Trace.attempts_append, nothing, Phase.held,
          Phase.lost, List.append_nil] at moved ⊢
        exact moved
      left_suffix := fun _ => List.nil_suffix }
  | cons next rest =>
    exact {
      handedOver_eq := (List.append_nil _).symm
      consecutive := Event.consecutive_nil _
      arrivals_eq := rfl
      perm := by
        rw [List.append_nil, places]
        exact moved.trans (.of_eq (List.append_nil _).symm)
      left_suffix := by
        rw [returning]
        exact (List.suffix_cons _ _).trans }

end

/-- Whatever the worker does, every event has its place. -/
theorem joins_work (daemon : Daemon σ) (settings : DeliverySettings) (machine : Machine σ) :
    ∃ arrived, Joins machine (machine.work daemon settings) arrived := by
  cases phase : machine.phase with
  | resting =>
    simp only [work, phase]
    split
    all_goals exact ⟨[], .of_still rfl rfl rfl rfl rfl (by rw [phase]; rfl) (by rw [phase]; rfl)
      (by rw [phase]; rfl)⟩
  | polling =>
    simp only [work, phase]
    exact joins_poll phase
  | sizing =>
    simp only [work, phase]
    split
    all_goals exact ⟨[], .of_still rfl rfl rfl rfl rfl (by rw [phase]; rfl) (by rw [phase]; rfl)
      (by rw [phase]; rfl)⟩
  | taking missing batch =>
    simp only [work, phase]
    exact ⟨[], joins_receive phase⟩
  | sending event rest sent rejected =>
    simp only [work, phase]
    exact ⟨_, joins_call phase⟩
  | counting event settlement rest sent rejected =>
    simp only [work, phase]
    exact ⟨[], joins_count phase⟩
  | returning deferral event rest =>
    simp only [work, phase]
    exact ⟨[], joins_handBack phase⟩
  | dead panic lost =>
    simp only [work, phase]
    exact ⟨[], .of_still rfl rfl rfl rfl rfl rfl rfl rfl⟩

/-- Whoever has the turn, every event has its place. -/
theorem joins_take (daemon : Daemon σ) (settings : DeliverySettings) (machine : Machine σ)
    (turn : Turn) : ∃ arrived, Joins machine (machine.take daemon settings turn) arrived := by
  cases turn with
  | worker => exact joins_work daemon settings machine
  | producer who => exact joins_produce who machine
  | stop stop => exact ⟨[], .of_still rfl rfl rfl rfl rfl rfl rfl rfl⟩

theorem accounted_fresh (settings : DeliverySettings) (state : σ)
    (programs : Nat → List Payload) : (fresh settings state programs).Accounted where
  consecutive := Event.consecutive_nil _
  arrivals_eq := rfl
  perm := .refl _
  left_suffix := List.nil_suffix

/-- Every event has its place after every schedule. -/
theorem Accounted.run (accounted : machine.Accounted) (daemon : Daemon σ)
    (settings : DeliverySettings) (schedule : List Turn) :
    (machine.run daemon settings schedule).Accounted := by
  induction schedule generalizing machine with
  | nil => exact accounted
  | cons turn schedule ih =>
    obtain ⟨arrived, joins⟩ := joins_take daemon settings machine turn
    exact ih (accounted.join joins)

/-! ## Turns of the others -/

/-- Others hand over some events, and the worker does nothing. -/
structure Meets (before after : Machine σ) (new : List Event) : Prop where
  phase_eq : after.phase = before.phase
  handedOver_eq : after.handedOver = before.handedOver ++ new
  queue_eq : after.worker.queue.toList = before.worker.queue.toList ++ new

theorem Meets.refl (machine : Machine σ) : Meets machine machine [] where
  phase_eq := rfl
  handedOver_eq := (List.append_nil _).symm
  queue_eq := (List.append_nil _).symm

theorem meets_take {turn : Turn} (other : turn ≠ .worker) (machine : Machine σ) :
    ∃ new, Meets machine (machine.take daemon settings turn) new := by
  cases turn with
  | worker => exact absurd rfl other
  | stop stop => exact ⟨[], rfl, (List.append_nil _).symm, (List.append_nil _).symm⟩
  | producer who =>
    simp only [take, produce]
    split
    · exact ⟨[], .refl _⟩
    · exact ⟨_, rfl, rfl, rfl⟩

theorem meets_run {schedule : List Turn} (others : schedule.count .worker = 0)
    (machine : Machine σ) : ∃ new, Meets machine (machine.run daemon settings schedule) new := by
  induction schedule generalizing machine with
  | nil => exact ⟨[], .refl _⟩
  | cons turn schedule ih =>
    have absent := List.count_eq_zero.mp others
    obtain ⟨new, now⟩ : ∃ new, Meets machine (machine.take daemon settings turn) new :=
      meets_take (fun same => absent (same ▸ List.mem_cons_self)) machine
    obtain ⟨more, later⟩ := ih (List.count_eq_zero.mpr fun member =>
      absent (List.mem_cons_of_mem _ member)) (machine.take daemon settings turn)
    refine ⟨new ++ more, later.phase_eq.trans now.phase_eq, ?_, ?_⟩
    · rw [← List.append_assoc, ← now.handedOver_eq]
      exact later.handedOver_eq
    · rw [← List.append_assoc, ← now.queue_eq]
      exact later.queue_eq

/-! ## Receiving a batch -/

/-- So many turns of the worker have received events from the front of the queue, and others have
handed over new ones meanwhile.  When none is missing any more, the worker sends its batch. -/
structure Received (before after : Machine σ) (batch front : List Event) (turns missing : Nat)
    (new : List Event) : Prop where
  handedOver_eq : after.handedOver = before.handedOver ++ new
  held_eq : after.phase.held = batch ++ front.take turns
  queue_eq : after.worker.queue.toList = front.drop turns ++ new
  ends : turns = missing → after.phase = .ofBatch (batch ++ front.take missing)

section

variable {after : Machine σ} {batch front new more : List Event} {event : Event}
  {turns missing : Nat}

theorem received_refl (taking : machine.phase = .taking missing batch) (some : 0 < missing) :
    Received machine machine batch machine.worker.queue.toList 0 missing [] where
  handedOver_eq := (List.append_nil _).symm
  held_eq := by
    rw [taking, List.take_zero, List.append_nil]
    rfl
  queue_eq := (List.append_nil _).symm
  ends := fun none => absurd none (Nat.ne_of_lt some)

/-- The turn of another. -/
theorem Received.of_meets {met : Machine σ} (meets : Meets machine met new)
    (waiting : missing ≤ machine.worker.queue.toList.length) (enough : turns ≤ missing)
    (later : Received met after batch met.worker.queue.toList turns missing more) :
    Received machine after batch machine.worker.queue.toList turns missing (new ++ more) where
  handedOver_eq := by
    rw [← List.append_assoc, ← meets.handedOver_eq]
    exact later.handedOver_eq
  held_eq := by
    rw [later.held_eq, meets.queue_eq, List.take_append_of_le_length (enough.trans waiting)]
  queue_eq := by
    rw [later.queue_eq, meets.queue_eq, List.drop_append_of_le_length (enough.trans waiting),
      List.append_assoc]
  ends := fun none => by
    have ends := later.ends none
    rwa [meets.queue_eq, List.take_append_of_le_length waiting] at ends

/-- A turn of the worker, with others to follow. -/
theorem Received.of_more (taking : machine.phase = .taking (missing + 2) batch)
    (queue : machine.worker.queue.toList = event :: front)
    (later : Received (machine.work daemon settings) after (batch ++ [event]) front turns
      (missing + 1) more) :
    Received machine after batch (event :: front) (turns + 1) (missing + 2) more := by
  have whole : ∀ events : List Event, batch ++ [event] ++ events = batch ++ event :: events :=
    fun events => List.append_assoc batch [event] events
  have start : { machine with phase := .taking (missing + 2) batch } = machine := by rw [← taking]
  have action : machine.work daemon settings = _ := start ▸ work_of_more queue
  rw [action] at later
  refine ⟨later.handedOver_eq, ?_, later.queue_eq, fun none => ?_⟩
  · rw [later.held_eq, whole]
    rfl
  · rw [later.ends (Nat.succ.inj none), whole]
    rfl

/-- The last turn of the worker, with none but turns of others to follow. -/
theorem Received.of_last (taking : machine.phase = .taking 1 batch)
    (queue : machine.worker.queue.toList = event :: front)
    (meets : Meets (machine.work daemon settings) after new) :
    Received machine after batch (event :: front) 1 1 new := by
  have start : { machine with phase := .taking 1 batch } = machine := by rw [← taking]
  have action : machine.work daemon settings = _ := start ▸ work_of_last queue
  have phase := meets.phase_eq
  have handedOver := meets.handedOver_eq
  have left := meets.queue_eq
  rw [action] at phase handedOver left
  refine ⟨?_, ?_, ?_, fun _ => ?_⟩
  · rw [handedOver, begin, handedOver_proceed]
    exact congrArg (· ++ new) (List.append_nil _)
  · rw [phase, begin, held_proceed]
    rfl
  · rw [left, begin, worker_proceed]
    rfl
  · rw [phase, begin, phase_proceed_zero]
    rfl

end

/-- **The events that are received are those at the front**, one for each turn of the worker.  What
is handed over meanwhile stays behind those that are still missing. -/
theorem received_run {schedule : List Turn} {missing : Nat} {batch : List Event}
    (taking : machine.phase = .taking missing batch) (some : 0 < missing)
    (waiting : missing ≤ machine.worker.queue.toList.length)
    (turns : schedule.count .worker ≤ missing) :
    ∃ new, Received machine (machine.run daemon settings schedule) batch
      machine.worker.queue.toList (schedule.count .worker) missing new := by
  induction schedule generalizing machine missing batch with
  | nil => exact ⟨[], received_refl taking some⟩
  | cons turn schedule ih =>
    by_cases mine : turn = .worker
    · subst mine
      rw [List.count_cons_self] at turns ⊢
      obtain ⟨event, front, queue⟩ :=
        List.exists_cons_of_length_pos (Nat.lt_of_lt_of_le some waiting)
      rw [queue] at waiting ⊢
      match missing with
      | 1 =>
        have none : schedule.count .worker = 0 := Nat.le_zero.mp (Nat.le_of_succ_le_succ turns)
        obtain ⟨new, meets⟩ : ∃ new, Meets (machine.work daemon settings) _ new :=
          meets_run none _
        rw [none]
        exact ⟨new, .of_last taking queue meets⟩
      | others + 2 =>
        have start : { machine with phase := .taking (others + 2) batch } = machine := by
          rw [← taking]
        have action : machine.work daemon settings = _ := start ▸ work_of_more queue
        have phase : (machine.work daemon settings).phase
            = .taking (others + 1) (batch ++ [event]) := by rw [action]
        have left : (machine.work daemon settings).worker.queue.toList = front := by
          rw [action]
          rfl
        obtain ⟨more, later⟩ := ih phase (Nat.succ_pos others)
          (left ▸ Nat.le_of_succ_le_succ waiting) (Nat.le_of_succ_le_succ turns)
        rw [left] at later
        exact ⟨more, .of_more taking queue later⟩
    · obtain ⟨new, meets⟩ : ∃ new, Meets machine (machine.take daemon settings turn) new :=
        meets_take mine machine
      rw [List.count_cons_of_ne mine] at turns ⊢
      have long : missing ≤ (machine.take daemon settings turn).worker.queue.toList.length := by
        rw [meets.queue_eq, List.length_append]
        exact waiting.trans (Nat.le_add_right _ _)
      obtain ⟨more, later⟩ := ih (meets.phase_eq.trans taking) some long turns
      exact ⟨new ++ more, .of_meets meets waiting turns later⟩

/-- **The batch of a pass is what was waiting when its number was read.** -/
theorem received_of_sizing {schedule : List Turn} (sizing : machine.phase = .sizing)
    (turns : schedule.count .worker ≤ machine.worker.queue.toList.length) :
    ∃ new, Received machine (machine.run daemon settings (.worker :: schedule)) []
      machine.worker.queue.toList (schedule.count .worker) machine.worker.queue.toList.length
      new := by
  by_cases nothing : machine.worker.queue.toList = []
  · have idle : machine.work daemon settings = machine.finish .idle := by
      have none : machine.worker.pending = 0 := List.length_eq_zero_iff.mpr nothing
      simp only [work, sizing, none, if_true]
    rw [nothing, List.length_nil, Nat.le_zero] at turns
    obtain ⟨new, meets⟩ : ∃ new, Meets (machine.finish .idle)
        ((machine.finish .idle).run daemon settings schedule) new := meets_run turns _
    have first : machine.run daemon settings (.worker :: schedule)
        = (machine.finish .idle).run daemon settings schedule := by rw [← idle]; rfl
    rw [first, turns]
    refine ⟨new, meets.handedOver_eq, ?_, meets.queue_eq, fun _ => ?_⟩
    · rw [meets.phase_eq]
      rfl
    · rw [meets.phase_eq, nothing]
      rfl
  · have some : machine.worker.pending ≠ 0 := fun none => nothing (List.length_eq_zero_iff.mp none)
    have sized : machine.work daemon settings
        = { machine with phase := .taking machine.worker.pending [] } := by
      simp only [work, sizing, if_neg some]
    have first : machine.run daemon settings (.worker :: schedule)
        = run daemon settings schedule
          { machine with phase := .taking machine.worker.pending [] } := by rw [← sized]; rfl
    obtain ⟨new, received⟩ : ∃ new, Received { machine with
          phase := .taking machine.worker.pending [] } _ [] machine.worker.queue.toList _ _ new :=
      received_run rfl (Nat.pos_of_ne_zero some) (Nat.le_refl _) turns
    rw [first]
    exact ⟨new, received.handedOver_eq, received.held_eq, received.queue_eq, received.ends⟩

/-! ## Handing events over again -/

/-- So many turns of the worker have handed events over again, and others have handed over new ones
meanwhile. -/
structure HandedBack (before after : Machine σ) (left : List Event) (turns : Nat)
    (new mixed : List Event) : Prop where
  handedOver_eq : after.handedOver = before.handedOver ++ new
  merged : Merged (left.take turns) new mixed
  queue_eq : after.worker.queue.toList = before.worker.queue.toList ++ mixed
  held_eq : after.phase.held = left.drop turns
  ends : turns = left.length → after.phase = .resting

section

variable {after met : Machine σ} {left new more mixed : List Event} {event : Event} {turns : Nat}

/-- A turn at which others hand over new ones. -/
theorem HandedBack.of_arrived (handedOver : met.handedOver = machine.handedOver ++ new)
    (queue : met.worker.queue.toList = machine.worker.queue.toList ++ new)
    (later : HandedBack met after left turns more mixed) :
    HandedBack machine after left turns (new ++ more) (new ++ mixed) where
  handedOver_eq := by
    rw [← List.append_assoc, ← handedOver]
    exact later.handedOver_eq
  merged := later.merged.append_right new
  queue_eq := by
    rw [← List.append_assoc, ← queue]
    exact later.queue_eq
  held_eq := later.held_eq
  ends := later.ends

/-- Nothing is left, and it is the turn of others only. -/
theorem HandedBack.of_done (resting : met.phase = .resting) (meets : Meets met after new) :
    HandedBack met after [] 0 new new where
  handedOver_eq := meets.handedOver_eq
  merged := .nil_right new
  queue_eq := meets.queue_eq
  held_eq := by
    rw [meets.phase_eq, resting]
    rfl
  ends := fun _ => meets.phase_eq.trans resting

/-- A turn of the worker, with others to follow. -/
theorem HandedBack.of_work (handedOver : met.handedOver = machine.handedOver)
    (queue : met.worker.queue.toList = machine.worker.queue.toList ++ [event])
    (later : HandedBack met after left turns more mixed) :
    HandedBack machine after (event :: left) (turns + 1) more (event :: mixed) where
  handedOver_eq := handedOver ▸ later.handedOver_eq
  merged := .left later.merged
  queue_eq := by
    rw [later.queue_eq, queue, List.append_assoc]
    rfl
  held_eq := later.held_eq
  ends := fun all => later.ends (Nat.succ.inj all)

end

/-- **Events that are handed over again keep their order**, one for each turn of the worker, with
nothing between them but what others hand over meanwhile. -/
theorem handedBack_run {schedule : List Turn} {deferral : Deferral} {event : Event}
    {rest : List Event} (returning : machine.phase = .returning deferral event rest)
    (turns : schedule.count .worker ≤ (event :: rest).length) :
    ∃ new mixed, HandedBack machine (machine.run daemon settings schedule) (event :: rest)
      (schedule.count .worker) new mixed := by
  induction schedule generalizing machine deferral event rest with
  | nil =>
    refine ⟨[], [], (List.append_nil _).symm, .nil, (List.append_nil _).symm, ?_, ?_⟩
    · rw [run, List.foldl_nil, returning]
      rfl
    · exact fun none => absurd none.symm (Nat.succ_ne_zero _)
  | cons turn schedule ih =>
    by_cases mine : turn = .worker
    · subst mine
      rw [List.count_cons_self] at turns ⊢
      have action : machine.work daemon settings = machine.handBack deferral event rest := by
        simp only [work, returning]
      cases rest with
      | nil =>
        have none : schedule.count .worker = 0 := Nat.le_zero.mp (Nat.le_of_succ_le_succ turns)
        have resting : (machine.work daemon settings).phase = .resting := by
          rw [action]
          rfl
        have handedOver : (machine.work daemon settings).handedOver = machine.handedOver := by
          rw [action]
          exact List.append_nil _
        obtain ⟨new, meets⟩ : ∃ new, Meets (machine.work daemon settings)
            ((machine.work daemon settings).run daemon settings schedule) new := meets_run none _
        rw [none]
        exact ⟨new, _, .of_work handedOver (by rw [action]; rfl) (.of_done resting meets)⟩
      | cons next rest =>
        have phase : ∃ deferral, (machine.work daemon settings).phase
            = .returning deferral next rest := by
          rw [action]
          exact ⟨_, rfl⟩
        obtain ⟨deferral, phase⟩ := phase
        obtain ⟨new, mixed, later⟩ := ih phase (Nat.le_of_succ_le_succ turns)
        exact ⟨new, event :: mixed, .of_work (by rw [action]; rfl) (by rw [action]; rfl) later⟩
    · obtain ⟨new, meets⟩ : ∃ new, Meets machine (machine.take daemon settings turn) new :=
        meets_take mine machine
      rw [List.count_cons_of_ne mine] at turns ⊢
      obtain ⟨more, mixed, later⟩ := ih (meets.phase_eq.trans returning) turns
      exact ⟨new ++ more, new ++ mixed, .of_arrived meets.handedOver_eq meets.queue_eq later⟩

/-- **What is put off goes back in the order of its batch.** -/
theorem handedBack_of_sending {schedule : List Turn} {event : Event} {rest : List Event}
    {sent rejected : Nat} {status : Status}
    (sending : machine.phase = .sending event rest sent rejected)
    (answer : (Worker.reaction daemon settings event machine.worker).answer = .ok (.error status))
    (transient : status.isTransient = true)
    (turns : schedule.count .worker ≤ (event :: rest).length) :
    ∃ new mixed, HandedBack machine (machine.run daemon settings (.worker :: schedule))
      (event :: rest) (schedule.count .worker) new mixed := by
  have start : machine.proceed sent rejected (event :: rest) = machine := by
    rw [proceed, ← sending]
  have action : machine.work daemon settings = _ := start ▸ work_of_unavailable answer transient
  have phase : ∃ deferral, (machine.work daemon settings).phase = .returning deferral event rest := by
    rw [action]
    exact ⟨_, rfl⟩
  obtain ⟨deferral, phase⟩ := phase
  obtain ⟨new, mixed, later⟩ : ∃ new mixed, HandedBack (machine.work daemon settings)
      ((machine.work daemon settings).run daemon settings schedule) (event :: rest)
      (schedule.count .worker) new mixed := handedBack_run phase turns
  let attempt := Worker.attempt daemon settings event machine.worker
  have handedOver : (machine.work daemon settings).handedOver
      = machine.handedOver ++ attempt.meanwhile.arrived := by
    rw [action, ← Worker.arrived_attemptTrace]
    rfl
  have queue : (machine.work daemon settings).worker.queue.toList
      = machine.worker.queue.toList ++ attempt.meanwhile.arrived := by
    rw [action]
    rfl
  exact ⟨_, _, later.of_arrived handedOver queue⟩

/-! ## Safety -/

/-- **Every interleaving is safe.**  Whatever the producers hand over and whoever has the turn, every
event that was handed over is in one place: it is waiting, the worker holds it, it is settled, or it
was lost with a panic.  When the worker has read how many events are waiting, it receives those and
no others.  When an event finds the daemon unreachable, it and all behind it, which are the end of
the batch, go back to the queue in their order, with nothing between them but what is handed over
meanwhile. -/
theorem interleaving_safe (daemon : Daemon σ) (settings : DeliverySettings) (state : σ)
    (programs : Nat → List Payload) (schedule : List Turn) :
    let start := fresh settings state programs
    let machine := start.run daemon settings schedule
    (machine.handedOver : Multiset Event)
        = machine.worker.queue.toList + machine.phase.held
          + Attempts.settled machine.trace.attempts + machine.phase.lost
      ∧ machine.handedOver.Nodup
      ∧ ∀ earlier turns, schedule = earlier ++ .worker :: turns →
        let before := start.run daemon settings earlier
        (before.phase = .sizing →
          turns.count .worker ≤ before.worker.queue.toList.length →
          ∃ new, Received before machine [] before.worker.queue.toList (turns.count .worker)
            before.worker.queue.toList.length new)
        ∧ ∀ event rest sent rejected status,
          before.phase = .sending event rest sent rejected →
          (Worker.reaction daemon settings event before.worker).answer = .ok (.error status) →
          status.isTransient = true →
          event :: rest <:+ before.lastBatch
            ∧ (turns.count .worker ≤ (event :: rest).length →
              ∃ new mixed, HandedBack before machine (event :: rest) (turns.count .worker) new
                mixed) := by
  intro start machine
  have accounted : ∀ turns, (start.run daemon settings turns).Accounted :=
    (accounted_fresh settings state programs).run daemon settings
  refine ⟨Multiset.coe_eq_coe.mpr (accounted schedule).perm,
    (accounted schedule).consecutive.nodup, ?_⟩
  intro earlier turns split before
  have same : machine = before.run daemon settings (.worker :: turns) := by
    simp only [machine, before, run, split, List.foldl_append]
  rw [same]
  refine ⟨received_of_sizing, fun event rest sent rejected status sending answer transient =>
    ⟨?_, handedBack_of_sending sending answer transient⟩⟩
  have suffix := (accounted earlier).left_suffix
  rw [sending] at suffix
  exact suffix

/-- While two events are received, another producer hands over a third one; when the second one goes
back, it stands behind the third one and those that the daemon handed over. -/
theorem interleaving_safe_falling :
    let programs : Nat → List Payload := fun who =>
      if who = 0 then [.start [], .start []] else [.monitor {}]
    let start := fresh {} 0 programs
    let first : List Turn := [.producer 0, .producer 0, .worker, .worker]
    let second := first ++ [.worker, .producer 1, .worker, .worker, .worker, .worker]
    let sized := start.run Worker.falling {} first
    let called := start.run Worker.falling {} second
    sized.phase = .sizing
      ∧ (∃ new, Received sized (start.run Worker.falling {} (second.take 8)) []
        sized.worker.queue.toList 2 2 new)
      ∧ ∃ event new mixed, called.phase = .sending event [] 1 0
        ∧ HandedBack called (start.run Worker.falling {} (second ++ [.worker, .worker])) [event] 1 new
          mixed := by
  intro programs start first second sized called
  have sending : called.phase = .sending ⟨.start [], 1⟩ [] 1 0 := by decide
  have sizing : sized.phase = .sizing := by decide
  have answer : (Worker.reaction Worker.falling {} ⟨.start [], 1⟩
      ((fresh {} 0 programs).run Worker.falling {} second).worker).answer
        = .ok (.error ⟨.unavailable, ""⟩) := by
    have state : ((fresh {} 0 programs).run Worker.falling {} second).worker.daemon = 1 := by decide
    rw [Worker.reaction, state]
    rfl
  refine ⟨sizing, ?_, ?_⟩
  · exact ((interleaving_safe Worker.falling {} 0 programs (second.take 8)).2.2 first
      [.producer 1, .worker, .worker] rfl).1 sizing (by decide)
  · have safe := (interleaving_safe Worker.falling {} 0 programs
      (second ++ .worker :: [.worker])).2.2 second [.worker] rfl
    have back := (safe.2 ⟨.start [], 1⟩ [] 1 0 ⟨.unavailable, ""⟩ sending answer rfl).2
    obtain ⟨new, mixed, handedBack⟩ := back (by decide)
    exact ⟨_, new, mixed, sending, handedBack⟩

end Machine

end JobHooks
