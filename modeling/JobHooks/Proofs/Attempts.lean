import JobHooks.Delivery.Worker
import Mathlib.Data.List.Basic
import Mathlib.Data.List.Perm.Basic

/-!
# Attempts

A call for an event has one of four verdicts: the daemon accepts the event, rejects it, cannot be
reached, or panics.  An event that is accepted or rejected is settled.

`Worker.exchange` calls the daemon for some events one after the other, whatever comes of it.  The
worker stops earlier, but as far as it gets its calls are those of the exchange.  What an exchange
does to the queue, to the arrival numbers and to the request to stop can be read off its attempts
(`Worker.toList_exchange`, `Worker.arrivals_exchange`, `Worker.stop_exchange`).
-/

namespace JobHooks

set_option autoImplicit false

/-! ## Verdicts -/

/-- What a call comes to for the event it was made for. -/
inductive Verdict where
  | accepted
  | rejected
  | unavailable
  | panicked
  deriving Repr, DecidableEq, Inhabited

namespace Verdict

/-- The verdict in an answer. -/
def ofAnswer : Except Panic (Except Status Unit) → Verdict
  | .error _ => panicked
  | .ok (.ok ()) => accepted
  | .ok (.error status) => if status.isTransient then unavailable else rejected

/-- Whether the event is done with. -/
def settles : Verdict → Bool
  | accepted | rejected => true
  | unavailable | panicked => false

/-- A verdict that settles is none that does not. -/
theorem ne_of_settles {verdict other : Verdict} (settles : verdict.settles = true)
    (leaves : other.settles = false) : verdict ≠ other := by
  rintro rfl
  rw [settles] at leaves
  exact Bool.noConfusion leaves

end Verdict

namespace Attempt

/-- What an attempt came to for its event. -/
def verdict (attempt : Attempt) : Verdict := .ofAnswer attempt.answer

theorem verdict_eq_panicked_iff {attempt : Attempt} :
    attempt.verdict = .panicked ↔ ∃ panic, attempt.answer = .error panic := by
  cases same : attempt.answer with
  | error panic => simp [verdict, same, Verdict.ofAnswer]
  | ok result =>
    cases result with
    | ok => simp [verdict, same, Verdict.ofAnswer]
    | error status => cases transient : status.isTransient <;>
        simp [verdict, same, Verdict.ofAnswer, transient]

end Attempt

namespace Attempts

/-- The events with a verdict, in the order in which it was given. -/
def withVerdict (verdict : Verdict) (attempts : List Attempt) : List Event :=
  (attempts.filter (·.verdict = verdict)).map Attempt.event

/-- The events that are done with, in the order in which they were. -/
def settled (attempts : List Attempt) : List Event :=
  (attempts.filter (·.verdict.settles)).map Attempt.event

/-- What was handed over while the worker waited for the answers. -/
def arrived (attempts : List Attempt) : List Event :=
  attempts.flatMap (·.meanwhile.arrived)

@[simp] theorem withVerdict_nil (verdict : Verdict) : withVerdict verdict [] = [] := rfl

@[simp] theorem withVerdict_append (verdict : Verdict) (earlier later : List Attempt) :
    withVerdict verdict (earlier ++ later)
      = withVerdict verdict earlier ++ withVerdict verdict later := by
  simp only [withVerdict, List.filter_append, List.map_append]

@[simp] theorem withVerdict_cons (verdict : Verdict) (attempt : Attempt)
    (attempts : List Attempt) :
    withVerdict verdict (attempt :: attempts)
      = (if attempt.verdict = verdict then [attempt.event] else [])
        ++ withVerdict verdict attempts := by
  by_cases same : attempt.verdict = verdict <;> simp [withVerdict, same]

theorem length_withVerdict_cons {verdict : Verdict} {attempt : Attempt} {number : Nat}
    (one : (withVerdict verdict [attempt]).length = number) (attempts : List Attempt) :
    (withVerdict verdict (attempt :: attempts)).length
      = number + (withVerdict verdict attempts).length := by
  rw [← List.singleton_append, withVerdict_append, List.length_append, one]

@[simp] theorem settled_nil : settled [] = [] := rfl

@[simp] theorem settled_append (earlier later : List Attempt) :
    settled (earlier ++ later) = settled earlier ++ settled later := by
  simp only [settled, List.filter_append, List.map_append]

@[simp] theorem settled_cons (attempt : Attempt) (attempts : List Attempt) :
    settled (attempt :: attempts)
      = (if attempt.verdict.settles then [attempt.event] else []) ++ settled attempts := by
  by_cases done : attempt.verdict.settles <;> simp [settled, done]

@[simp] theorem arrived_nil : arrived [] = [] := rfl

@[simp] theorem arrived_append (earlier later : List Attempt) :
    arrived (earlier ++ later) = arrived earlier ++ arrived later := by
  simp only [arrived, List.flatMap_append]

@[simp] theorem arrived_cons (attempt : Attempt) (attempts : List Attempt) :
    arrived (attempt :: attempts) = attempt.meanwhile.arrived ++ arrived attempts := by
  simp only [arrived, List.flatMap_cons]

/-- The settled events are the accepted and the rejected ones. -/
theorem settled_perm (attempts : List Attempt) :
    (settled attempts).Perm
      (withVerdict .accepted attempts ++ withVerdict .rejected attempts) := by
  induction attempts with
  | nil => exact .refl _
  | cons attempt attempts ih =>
    cases verdict : attempt.verdict with
    | accepted => simpa [verdict, Verdict.settles] using ih
    | rejected =>
      simpa [verdict, Verdict.settles] using
        (List.Perm.cons attempt.event ih).trans List.perm_middle.symm
    | unavailable => simpa [verdict, Verdict.settles] using ih
    | panicked => simpa [verdict, Verdict.settles] using ih

/-- When every attempt settles its event, the settled events are those of the attempts. -/
theorem settled_eq_map {attempts : List Attempt}
    (done : ∀ attempt ∈ attempts, attempt.verdict.settles = true) :
    settled attempts = attempts.map Attempt.event := by
  rw [settled, List.filter_eq_self.mpr done]

/-- Where no event is settled, none has a verdict that settles. -/
theorem withVerdict_eq_nil {attempts : List Attempt} {verdict : Verdict}
    (settles : verdict.settles = true)
    (left : ∀ attempt ∈ attempts, attempt.verdict.settles = false) :
    withVerdict verdict attempts = [] := by
  rw [withVerdict, List.map_eq_nil_iff, List.filter_eq_nil_iff]
  intro attempt member same
  exact Verdict.ne_of_settles settles (left attempt member) (of_decide_eq_true same).symm

/-- Where every event is settled, as many are accepted or rejected as there are attempts. -/
theorem length_withVerdict_add {attempts : List Attempt}
    (done : ∀ attempt ∈ attempts, attempt.verdict.settles = true) :
    (withVerdict .accepted attempts).length + (withVerdict .rejected attempts).length
      = attempts.length := by
  rw [← List.length_append, ← (settled_perm attempts).length_eq, settled_eq_map done,
    List.length_map]

end Attempts

/-! ## Arrival numbers -/

namespace Event

@[simp] theorem length_numbered (first : Nat) (payloads : List Payload) :
    (numbered first payloads).length = payloads.length := by
  induction payloads generalizing first with
  | nil => rfl
  | cons payload payloads ih => simp only [numbered, List.length_cons, ih]

/-- The arrival numbers of events count up from `first`. -/
def Consecutive (first : Nat) (events : List Event) : Prop :=
  events.map Event.arrival = List.range' first events.length

theorem consecutive_nil (first : Nat) : Consecutive first [] := rfl

theorem consecutive_numbered (first : Nat) (payloads : List Payload) :
    Consecutive first (numbered first payloads) := by
  induction payloads generalizing first with
  | nil => rfl
  | cons payload payloads ih =>
    have later : (numbered (first + 1) payloads).map Event.arrival = _ := ih (first + 1)
    simp only [Consecutive, numbered, List.map_cons, later, List.length_cons, List.range'_succ]

theorem Consecutive.append {first : Nat} {earlier later : List Event}
    (start : Consecutive first earlier) (rest : Consecutive (first + earlier.length) later) :
    Consecutive first (earlier ++ later) := by
  simp only [Consecutive] at start rest ⊢
  rw [List.map_append, start, rest, List.length_append, List.range'_append_1]

/-- Whoever arrives later has the higher number. -/
theorem Consecutive.pairwise {first : Nat} {events : List Event}
    (consecutive : Consecutive first events) : events.Pairwise (·.arrival < ·.arrival) := by
  have numbers : (events.map Event.arrival).Pairwise (· < ·) := by
    rw [consecutive]
    exact List.pairwise_lt_range'
  exact List.pairwise_map.mp numbers

/-- No event is counted twice. -/
theorem Consecutive.nodup {first : Nat} {events : List Event}
    (consecutive : Consecutive first events) : events.Nodup :=
  consecutive.pairwise.imp fun before same =>
    Nat.ne_of_lt before (congrArg Event.arrival same)

/-- The call that an event asks for. -/
def call (settings : DeliverySettings) (event : Event) : Call :=
  ⟨event.hookType, .fresh settings.rpcTimeout, event.payload⟩

end Event

/-! ## What others do meanwhile -/

/-- The request to stop after what others did to it. -/
def Meanwhile.stopAfter (stop : Bool) (meanwhile : Meanwhile) : Bool :=
  meanwhile.stop?.getD stop

namespace Worker

section

variable {σ : Type} (worker : Worker σ) (effects : Effects) (next : σ)

@[simp] theorem toList_absorb :
    (worker.absorb effects next).queue.toList
      = worker.queue.toList ++ (worker.meanwhile effects).arrived := rfl

@[simp] theorem arrivals_absorb :
    (worker.absorb effects next).arrivals
      = worker.arrivals + (worker.meanwhile effects).arrived.length := by
  simp only [absorb, enqueue, meanwhile, Event.length_numbered]

@[simp] theorem stop_absorb :
    (worker.absorb effects next).stop = (worker.meanwhile effects).stopAfter worker.stop := rfl

@[simp] theorem daemon_absorb : (worker.absorb effects next).daemon = next := rfl

@[simp] theorem stats_absorb : (worker.absorb effects next).stats = worker.stats := rfl

/-- What arrives meanwhile is numbered from the number of earlier arrivals on. -/
theorem consecutive_meanwhile :
    Event.Consecutive worker.arrivals (worker.meanwhile effects).arrived :=
  Event.consecutive_numbered _ _

end

/-! ## Exchanges -/

variable {σ : Type} (daemon : Daemon σ) (settings : DeliverySettings)

/-- What the daemon makes of an event. -/
def reaction (event : Event) (worker : Worker σ) : CallReaction σ :=
  (daemon.dispatch (.fresh settings.rpcTimeout) event.payload worker.daemon).reaction

/-- A call for an event. -/
def attempt (event : Event) (worker : Worker σ) : Attempt where
  event := event
  call := event.call settings
  meanwhile := worker.meanwhile (reaction daemon settings event worker).effects
  answer := (reaction daemon settings event worker).answer

/-- The worker after a call for an event. -/
def called (event : Event) (worker : Worker σ) : Worker σ :=
  worker.absorb (reaction daemon settings event worker).effects
    (reaction daemon settings event worker).next

/-- Calls for events one after the other, whatever comes of it. -/
def exchange : List Event → Worker σ → List Attempt × Worker σ
  | [], worker => ([], worker)
  | event :: events, worker =>
    let (attempts, after) := exchange events (called daemon settings event worker)
    (attempt daemon settings event worker :: attempts, after)

variable {daemon settings} {events : List Event} {worker : Worker σ}

/-- Calls for some events and then for others. -/
theorem exchange_append (earlier later : List Event) (worker : Worker σ) :
    exchange daemon settings (earlier ++ later) worker
      = ((exchange daemon settings earlier worker).1
          ++ (exchange daemon settings later (exchange daemon settings earlier worker).2).1,
        (exchange daemon settings later (exchange daemon settings earlier worker).2).2) := by
  induction earlier generalizing worker with
  | nil => rfl
  | cons event earlier ih => simp only [List.cons_append, exchange, ih]

/-- There is one attempt for each event, in their order. -/
theorem map_event_exchange (events : List Event) (worker : Worker σ) :
    (exchange daemon settings events worker).1.map Attempt.event = events := by
  induction events generalizing worker with
  | nil => rfl
  | cons event events ih => simp only [exchange, List.map_cons, ih, attempt]

/-- The call for an event is the one that it asks for. -/
theorem call_of_mem_exchange {attempt : Attempt}
    (member : attempt ∈ (exchange daemon settings events worker).1) :
    attempt.call = attempt.event.call settings := by
  induction events generalizing worker with
  | nil => cases member
  | cons event events ih =>
    rcases List.mem_cons.mp member with rfl | later
    · rfl
    · exact ih later

/-- The first calls of an exchange are those that the first events ask for. -/
theorem map_call_of_prefix {attempts : List Attempt}
    (first : attempts <+: (exchange daemon settings events worker).1) :
    attempts.map Attempt.call = (events.take attempts.length).map (Event.call settings) := by
  have called : attempts.map Attempt.event = events.take attempts.length := by
    conv_lhs => rw [List.prefix_iff_eq_take.mp first, List.map_take, map_event_exchange]
  rw [← called, List.map_map]
  exact List.map_congr_left fun attempt member => call_of_mem_exchange (first.subset member)

section

variable (daemon settings)

/-- What arrives during an exchange lines up behind what is waiting. -/
theorem toList_exchange (events : List Event) (worker : Worker σ) :
    (exchange daemon settings events worker).2.queue.toList
      = worker.queue.toList ++ Attempts.arrived (exchange daemon settings events worker).1 := by
  induction events generalizing worker with
  | nil => simp only [exchange, Attempts.arrived_nil, List.append_nil]
  | cons event events ih =>
    simp only [exchange, ih, called, toList_absorb, Attempts.arrived_cons, attempt,
      List.append_assoc]

/-- Each arrival during an exchange takes the next number. -/
theorem arrivals_exchange (events : List Event) (worker : Worker σ) :
    (exchange daemon settings events worker).2.arrivals
      = worker.arrivals
        + (Attempts.arrived (exchange daemon settings events worker).1).length := by
  induction events generalizing worker with
  | nil => rfl
  | cons event events ih =>
    simp only [exchange, ih, called, arrivals_absorb, Attempts.arrived_cons, attempt,
      List.length_append, Nat.add_assoc]

/-- What arrives during an exchange is numbered from the number of earlier arrivals on. -/
theorem consecutive_exchange (events : List Event) (worker : Worker σ) :
    Event.Consecutive worker.arrivals
      (Attempts.arrived (exchange daemon settings events worker).1) := by
  induction events generalizing worker with
  | nil => exact Event.consecutive_nil _
  | cons event events ih =>
    have later := ih (called daemon settings event worker)
    rw [called, arrivals_absorb] at later
    exact (consecutive_meanwhile worker _).append later

/-- The request to stop is what the last of those who changed it made of it. -/
theorem stop_exchange (events : List Event) (worker : Worker σ) :
    (exchange daemon settings events worker).2.stop
      = ((exchange daemon settings events worker).1.map Attempt.meanwhile).foldl
          Meanwhile.stopAfter worker.stop := by
  induction events generalizing worker with
  | nil => rfl
  | cons event events ih =>
    simp only [exchange, ih, called, stop_absorb, attempt, List.map_cons, List.foldl_cons]

theorem stats_exchange (events : List Event) (worker : Worker σ) :
    (exchange daemon settings events worker).2.stats = worker.stats := by
  induction events generalizing worker with
  | nil => rfl
  | cons event events ih => simp only [exchange, ih, called, stats_absorb]

end

/-- An answer in an exchange is one that the daemon gives. -/
theorem answer_of_mem_exchange {attempt : Attempt}
    (member : attempt ∈ (exchange daemon settings events worker).1) :
    ∃ state, attempt.answer = (daemon.dispatch (.fresh settings.rpcTimeout) attempt.event.payload
      state).reaction.answer := by
  induction events generalizing worker with
  | nil => cases member
  | cons event events ih =>
    rcases List.mem_cons.mp member with rfl | later
    · exact ⟨worker.daemon, rfl⟩
    · exact ih later

/-- The attempts depend on the state of the daemon and on the number of earlier arrivals alone. -/
theorem attempts_exchange_congr (events : List Event) {worker other : Worker σ}
    (arrivals : worker.arrivals = other.arrivals) (state : worker.daemon = other.daemon) :
    (exchange daemon settings events worker).1 = (exchange daemon settings events other).1 := by
  induction events generalizing worker other with
  | nil => rfl
  | cons event events ih =>
    have reaction : reaction daemon settings event worker
        = reaction daemon settings event other := by
      simp only [Worker.reaction, state]
    have attempt : attempt daemon settings event worker = attempt daemon settings event other := by
      simp only [Worker.attempt, reaction, meanwhile, arrivals]
    have later : (exchange daemon settings events (called daemon settings event worker)).1
        = (exchange daemon settings events (called daemon settings event other)).1 := ih
      (by simp only [called, arrivals_absorb, reaction, meanwhile, arrivals])
      (by simp only [called, daemon_absorb, reaction])
    simp only [exchange, attempt, later]

end Worker

end JobHooks
