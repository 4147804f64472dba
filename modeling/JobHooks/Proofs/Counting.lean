import JobHooks.Proofs.Interleaving

/-!
# Totals in the midst of a pass

Whoever reads the totals of a worker may do so at any moment, also while the worker is busy with its
batch.  The daemon answers a call at one turn, and the worker counts at the next what it has
answered.  So at every moment the totals and what is yet to be counted make up the calls
(`Machine.Counted`): a total may lag behind by one.

`Machine.adds_take` says what one turn adds, and from this follow, for every schedule, that the
totals count the calls (`Machine.Counted.run`), that calls are never taken back
(`Machine.attempts_prefix_run`), and that the totals stand still while nothing is to be counted
(`Machine.Adds.totals_eq`).
-/

namespace JobHooks

set_option autoImplicit false

namespace Phase

/-- The event that has been accepted and is yet to be counted. -/
def accepting : Phase → List Event
  | counting event .accepted _ _ _ => [event]
  | _ => []

/-- The event that has been rejected and is yet to be counted. -/
def rejecting : Phase → List Event
  | counting event (.rejected _ _) _ _ _ => [event]
  | _ => []

/-- The event that is settled and yet to be counted. -/
def uncounted (phase : Phase) : List Event := phase.accepting ++ phase.rejecting

end Phase

namespace Machine

variable {σ : Type} {daemon : Daemon σ} {settings : DeliverySettings} {machine : Machine σ}

/-- The events that the daemon has accepted. -/
def accepted (machine : Machine σ) : List Event :=
  Attempts.withVerdict .accepted machine.trace.attempts

/-- The events that the daemon has rejected. -/
def rejected (machine : Machine σ) : List Event :=
  Attempts.withVerdict .rejected machine.trace.attempts

/-- The events that are neither waiting nor settled: the worker holds them, or they were lost. -/
def unsettled (machine : Machine σ) : List Event := machine.phase.held ++ machine.phase.lost

/-- The events that are neither waiting nor counted: the worker holds them, has yet to count what
settled them, or has lost them. -/
def inHand (machine : Machine σ) : List Event := machine.unsettled ++ machine.phase.uncounted

/-- The totals, with what is yet to be counted, are the numbers of accepted and rejected events. -/
structure Counted (machine : Machine σ) : Prop where
  accepting_suffix : machine.phase.accepting <:+ machine.accepted
  rejecting_suffix : machine.phase.rejecting <:+ machine.rejected
  sent_eq : machine.worker.stats.sent + UInt64.ofNat machine.phase.accepting.length
    = UInt64.ofNat machine.accepted.length
  rejected_eq : machine.worker.stats.rejected + UInt64.ofNat machine.phase.rejecting.length
    = UInt64.ofNat machine.rejected.length

theorem counted_fresh (settings : DeliverySettings) (state : σ) (programs : Nat → List Payload) :
    (fresh settings state programs).Counted where
  accepting_suffix := List.nil_suffix
  rejecting_suffix := List.nil_suffix
  sent_eq := rfl
  rejected_eq := rfl

/-! ## What a turn adds -/

/-- What a turn adds to the calls, and to the totals with what is yet to be counted.  The totals
themselves change only where something is. -/
structure Adds (before after : Machine σ) (attempts : List Attempt) : Prop where
  attempts_eq : after.trace.attempts = before.trace.attempts ++ attempts
  accepting_suffix :
    before.phase.accepting <:+ before.accepted → after.phase.accepting <:+ after.accepted
  rejecting_suffix :
    before.phase.rejecting <:+ before.rejected → after.phase.rejecting <:+ after.rejected
  sent_eq : after.worker.stats.sent + UInt64.ofNat after.phase.accepting.length
    = before.worker.stats.sent + UInt64.ofNat before.phase.accepting.length
      + UInt64.ofNat (Attempts.withVerdict .accepted attempts).length
  rejected_eq : after.worker.stats.rejected + UInt64.ofNat after.phase.rejecting.length
    = before.worker.stats.rejected + UInt64.ofNat before.phase.rejecting.length
      + UInt64.ofNat (Attempts.withVerdict .rejected attempts).length
  totals_eq : before.phase.uncounted = [] →
    after.worker.stats.sent = before.worker.stats.sent
      ∧ after.worker.stats.rejected = before.worker.stats.rejected

/-- A turn without a call, at which nothing is counted. -/
theorem Adds.of_quiet {after : Machine σ} (attempts : after.trace.attempts = machine.trace.attempts)
    (sent : after.worker.stats.sent = machine.worker.stats.sent)
    (rejected : after.worker.stats.rejected = machine.worker.stats.rejected)
    (accepting : after.phase.accepting = machine.phase.accepting)
    (rejecting : after.phase.rejecting = machine.phase.rejecting) :
    Adds machine after [] where
  attempts_eq := attempts.trans (List.append_nil _).symm
  accepting_suffix := by
    rw [accepting, accepted, accepted, attempts]
    exact id
  rejecting_suffix := by
    rw [rejecting, Machine.rejected, Machine.rejected, attempts]
    exact id
  sent_eq := by
    rw [sent, accepting]
    exact (UInt64.add_zero _).symm
  rejected_eq := by
    rw [rejected, rejecting]
    exact (UInt64.add_zero _).symm
  totals_eq := fun _ => ⟨sent, rejected⟩

section

variable (sent rejected : Nat) (batch : List Event)

@[simp] theorem accepting_proceed : (machine.proceed sent rejected batch).phase.accepting = [] := by
  cases batch <;> rfl

@[simp] theorem rejecting_proceed : (machine.proceed sent rejected batch).phase.rejecting = [] := by
  cases batch <;> rfl

end

theorem adds_poll (polling : machine.phase = .polling) :
    Adds machine (machine.poll daemon) [] := by
  have asked (reported : List Notice) :
      (machine.trace ++ Worker.pollTrace daemon reported machine.worker).attempts
        = machine.trace.attempts := by
    rw [Trace.attempts_append, Worker.attempts_pollTrace, List.append_nil]
  cases answer : (Worker.polling daemon machine.worker).answer with
  | error panic =>
    simp only [poll, answer]
    exact .of_quiet (asked _) rfl rfl (by rw [polling]; rfl) (by rw [polling]; rfl)
  | ok connected =>
    cases connected <;> simp only [poll, answer]
    · exact .of_quiet (asked _) rfl rfl (by rw [polling]; rfl) (by rw [polling]; rfl)
    · exact .of_quiet (asked _) rfl rfl (by rw [polling]; rfl) (by rw [polling]; rfl)

theorem adds_begin {before : Machine σ} {missing : Nat} {earlier : List Event} (batch : List Event)
    (taking : before.phase = .taking missing earlier) (trace : machine.trace = before.trace)
    (stats : machine.worker.stats = before.worker.stats) :
    Adds before (machine.begin batch) [] := by
  have silent : Trace.attempts [.taken batch, .noted (.dequeued batch.length)] = [] := rfl
  refine .of_quiet ?_ ?_ ?_ ?_ ?_
  · simp only [begin, trace_proceed, record, Trace.attempts_append, silent, List.append_nil, trace]
  · simp only [begin, worker_proceed, record, stats]
  · simp only [begin, worker_proceed, record, stats]
  · rw [begin, accepting_proceed, taking]
    rfl
  · rw [begin, rejecting_proceed, taking]
    rfl

theorem adds_receive {missing : Nat} {batch : List Event}
    (taking : machine.phase = .taking missing batch) :
    Adds machine (machine.receive missing batch) [] := by
  rw [receive]
  split
  · exact adds_begin batch taking rfl rfl
  · split
    · exact adds_begin _ taking rfl rfl
    · exact .of_quiet rfl rfl rfl (by rw [taking]; rfl) (by rw [taking]; rfl)

section

variable {event : Event} {rest : List Event} {sent rejected : Nat}

/-- Behind a call, its event is yet to be counted if it is settled. -/
theorem uncounted_answered (daemon : Daemon σ) (settings : DeliverySettings) (event : Event)
    (rest : List Event) (sent rejected : Nat) (worker : Worker σ) :
    let after :=
      Phase.answered event rest sent rejected (Worker.reaction daemon settings event worker)
    let attempt := Worker.attempt daemon settings event worker
    after.accepting = Attempts.withVerdict .accepted [attempt]
      ∧ after.rejecting = Attempts.withVerdict .rejected [attempt] := by
  intro after attempt
  rw [Attempts.withVerdict_cons, Attempts.withVerdict_cons]
  rcases answered_cases daemon settings event rest sent rejected worker with
    ⟨verdict, _, same⟩ | ⟨verdict, same⟩ | ⟨verdict, _, same⟩ | ⟨verdict, _, _, same⟩
  all_goals
    rw [show attempt.verdict = _ from verdict, show after = _ from same]
    exact ⟨rfl, rfl⟩

theorem adds_call (sending : machine.phase = .sending event rest sent rejected) :
    Adds machine (machine.call daemon settings event rest sent rejected)
      [Worker.attempt daemon settings event machine.worker] := by
  let after := machine.call daemon settings event rest sent rejected
  have attempts : after.trace.attempts = machine.trace.attempts
      ++ [Worker.attempt daemon settings event machine.worker] := by
    rw [← Worker.attempts_attemptTrace, ← Trace.attempts_append]
    rfl
  have accepting : after.phase.accepting = _ :=
    (uncounted_answered daemon settings event rest sent rejected machine.worker).1
  have rejecting : after.phase.rejecting = _ :=
    (uncounted_answered daemon settings event rest sent rejected machine.worker).2
  refine ⟨attempts, fun _ => ⟨machine.accepted, ?_⟩, fun _ => ⟨machine.rejected, ?_⟩, ?_, ?_,
    fun _ => ⟨rfl, rfl⟩⟩
  · rw [accepting, accepted, accepted, attempts, Attempts.withVerdict_append]
  · rw [rejecting, Machine.rejected, Machine.rejected, attempts, Attempts.withVerdict_append]
  · rw [accepting, sending]
    exact congrArg (· + _) (UInt64.add_zero _).symm
  · rw [rejecting, sending]
    exact congrArg (· + _) (UInt64.add_zero _).symm

theorem adds_count {settlement : Settlement}
    (counting : machine.phase = .counting event settlement rest sent rejected) :
    Adds machine (machine.count event settlement rest sent rejected) [] := by
  have silent (notice : Notice) : Trace.attempts [.noted notice] = [] := rfl
  refine ⟨?_, fun _ => ?_, fun _ => ?_, ?_, ?_, ?_⟩
  · rw [count, trace_proceed, record, Trace.attempts_append, silent]
  · rw [count, accepting_proceed]
    exact List.nil_suffix
  · rw [count, rejecting_proceed]
    exact List.nil_suffix
  · rw [count, accepting_proceed, worker_proceed, counting]
    cases settlement <;> rfl
  · rw [count, rejecting_proceed, worker_proceed, counting]
    cases settlement <;> rfl
  · intro uncounted
    rw [counting] at uncounted
    cases settlement <;> exact absurd uncounted (List.cons_ne_nil _ _)

theorem adds_handBack {deferral : Deferral}
    (returning : machine.phase = .returning deferral event rest) :
    Adds machine (machine.handBack deferral event rest) [] := by
  have silent (notice : Notice) : Trace.attempts [.noted notice] = [] := rfl
  cases rest with
  | nil =>
    refine .of_quiet ?_ (UInt64.add_zero _) (UInt64.add_zero _) (by rw [returning]; rfl)
      (by rw [returning]; rfl)
    simp only [handBack, finish, record, Trace.attempts_append, silent, List.append_nil]
  | cons next rest =>
    exact .of_quiet rfl rfl rfl (by rw [returning]; rfl) (by rw [returning]; rfl)

end

theorem adds_work (daemon : Daemon σ) (settings : DeliverySettings) (machine : Machine σ) :
    ∃ attempts, Adds machine (machine.work daemon settings) attempts := by
  cases phase : machine.phase with
  | resting | sizing =>
    simp only [work, phase]
    split
    all_goals exact ⟨[], .of_quiet rfl rfl rfl (by rw [phase]; rfl) (by rw [phase]; rfl)⟩
  | polling =>
    simp only [work, phase]
    exact ⟨[], adds_poll phase⟩
  | taking missing batch =>
    simp only [work, phase]
    exact ⟨[], adds_receive phase⟩
  | sending event rest sent rejected =>
    simp only [work, phase]
    exact ⟨_, adds_call phase⟩
  | counting event settlement rest sent rejected =>
    simp only [work, phase]
    exact ⟨[], adds_count phase⟩
  | returning deferral event rest =>
    simp only [work, phase]
    exact ⟨[], adds_handBack phase⟩
  | dead panic lost =>
    simp only [work, phase]
    exact ⟨[], .of_quiet rfl rfl rfl rfl rfl⟩

/-- **What a turn adds to the calls it adds to the totals, or leaves to be counted.** -/
theorem adds_take (daemon : Daemon σ) (settings : DeliverySettings) (machine : Machine σ)
    (turn : Turn) : ∃ attempts, Adds machine (machine.take daemon settings turn) attempts := by
  cases turn with
  | worker => exact adds_work daemon settings machine
  | producer who =>
    refine ⟨[], ?_⟩
    rw [take, produce]
    split
    all_goals exact .of_quiet rfl rfl rfl rfl rfl
  | stop stop => exact ⟨[], .of_quiet rfl rfl rfl rfl rfl⟩

/-! ## Whole schedules -/

theorem Counted.add {after : Machine σ} {attempts : List Attempt} (counted : machine.Counted)
    (adds : Adds machine after attempts) : after.Counted where
  accepting_suffix := adds.accepting_suffix counted.accepting_suffix
  rejecting_suffix := adds.rejecting_suffix counted.rejecting_suffix
  sent_eq := by
    rw [adds.sent_eq, counted.sent_eq, accepted, accepted, adds.attempts_eq,
      Attempts.withVerdict_append, List.length_append, UInt64.ofNat_add]
  rejected_eq := by
    rw [adds.rejected_eq, counted.rejected_eq, rejected, rejected, adds.attempts_eq,
      Attempts.withVerdict_append, List.length_append, UInt64.ofNat_add]

/-- The totals count the calls after every schedule. -/
theorem Counted.run (counted : machine.Counted) (daemon : Daemon σ) (settings : DeliverySettings)
    (schedule : List Turn) : (machine.run daemon settings schedule).Counted := by
  induction schedule generalizing machine with
  | nil => exact counted
  | cons turn schedule ih =>
    obtain ⟨attempts, adds⟩ := adds_take daemon settings machine turn
    exact ih (counted.add adds)

/-- What is yet to be counted is settled. -/
theorem Counted.uncounted_subset (counted : machine.Counted) :
    machine.phase.uncounted ⊆ Attempts.settled machine.trace.attempts := by
  intro event member
  apply (Attempts.settled_perm _).mem_iff.mpr
  rcases List.mem_append.mp member with accepting | rejecting
  · exact List.mem_append_left _ (counted.accepting_suffix.subset accepting)
  · exact List.mem_append_right _ (counted.rejecting_suffix.subset rejecting)

/-- A total that has not wrapped around is the number of its events, but for what is yet to be
counted. -/
theorem toNat_total {total : UInt64} {events uncounted : List Event}
    (counts : total + UInt64.ofNat uncounted.length = UInt64.ofNat events.length)
    (suffix : uncounted <:+ events) (few : events.length < UInt64.size) :
    total.toNat + uncounted.length = events.length := by
  have short := suffix.length_le
  have small := total.toNat_lt
  have numbers := congrArg UInt64.toNat counts
  rw [UInt64.toNat_add, UInt64.toNat_ofNat_of_lt' few,
    UInt64.toNat_ofNat_of_lt' (Nat.lt_of_le_of_lt short few)] at numbers
  change events.length < 2 ^ 64 at few
  omega

/-- A call that was made remains made. -/
theorem attempts_prefix_run (daemon : Daemon σ) (settings : DeliverySettings)
    (schedule : List Turn) (machine : Machine σ) :
    machine.trace.attempts <+: (machine.run daemon settings schedule).trace.attempts := by
  induction schedule generalizing machine with
  | nil => exact List.prefix_rfl
  | cons turn schedule ih =>
    obtain ⟨attempts, adds⟩ := adds_take daemon settings machine turn
    exact List.IsPrefix.trans ⟨attempts, adds.attempts_eq.symm⟩ (ih _)

end Machine

end JobHooks
