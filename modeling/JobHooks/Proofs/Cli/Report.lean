import JobHooks.Proofs.Cli.Session

/-!
# What a command reports

A session has one event, and the daemon beyond a transport adds none.  So at every moment behind the
first move of the caller that event is in one place (`Cli.Session.Alone.places_eq`): it is waiting,
the worker holds it or has lost it, or it is settled.  The totals follow a turn later, when the
worker counts what the daemon has answered (`Cli.Session.Alone.count_inHand`).  The three numbers of
a report are read at three moments, and `Cli.Session.sample_of_done` says what they tell.  An event
that the worker has in hand is neither waiting nor counted: the numbers may tell of nothing,
although the event has been accepted already or is accepted later
(`Cli.Session.accepted_after_sample`).
-/

namespace JobHooks

set_option autoImplicit false

variable {σ ρ : Type} [Inhabited ρ] {link : Link σ ρ} {settings : DeliverySettings}

namespace Machine

@[simp] theorem programs_proceed {σ : Type} (sent rejected : Nat) (batch : List Event)
    (machine : Machine σ) : (machine.proceed sent rejected batch).programs = machine.programs := by
  cases batch <;> rfl

theorem begin_adds_nothing {σ : Type} (batch : List Event) (machine : Machine σ) :
    (machine.begin batch).handedOver = machine.handedOver
      ∧ (machine.begin batch).programs = machine.programs := by
  rw [begin, handedOver_proceed, programs_proceed]
  exact ⟨List.append_nil _, rfl⟩

/-- **While the worker is at work, nothing is handed over**: the producers keep what they have, and
the daemon beyond a transport adds nothing. -/
theorem work_adds_nothing (link : Link σ ρ) (settings : DeliverySettings)
    (machine : Machine (Transport σ)) :
    (machine.work (Transport.daemon link) settings).handedOver = machine.handedOver
      ∧ (machine.work (Transport.daemon link) settings).programs = machine.programs := by
  have asked (reported : List Notice) :
      (Worker.pollTrace (Transport.daemon link) reported machine.worker).arrived = [] := by
    rw [Worker.arrived_pollTrace]
    rfl
  have called (event : Event) :
      (Worker.attemptTrace (Transport.daemon link) settings event machine.worker).arrived = [] := by
    rw [Worker.arrived_attemptTrace, Worker.attempt, Transport.reaction_daemon]
    rfl
  have noted (notice : Notice) : Trace.arrived [.noted notice] = [] := rfl
  cases phase : machine.phase with
  | resting | sizing =>
    simp only [work, phase]
    split <;> exact ⟨rfl, rfl⟩
  | polling =>
    simp only [work, phase, poll]
    split
    · simp only [record, asked, List.append_nil, and_self]
    · split <;> simp only [finish, record, asked, List.append_nil, and_self]
  | taking missing batch =>
    simp only [work, phase, receive]
    split
    · exact begin_adds_nothing _ _
    · split
      · exact begin_adds_nothing _ _
      · exact ⟨rfl, rfl⟩
  | sending event rest sent rejected =>
    simp only [work, phase, call, record, called, List.append_nil, and_self]
  | counting event settlement rest sent rejected =>
    simp only [work, phase, count, handedOver_proceed, programs_proceed, record, noted,
      List.append_nil, and_self]
  | returning deferral event rest =>
    cases rest <;>
      simp only [work, phase, handBack, finish, record, noted, List.append_nil, and_self]
  | dead => simp only [work, phase, and_self]

end Machine

namespace Cli

/-- What has been handed over at some stage. -/
def Stage.submitted (payload : Payload) : Stage → List Event
  | .submitting => []
  | .waiting | .watching _ | .readingSent | .readingRejected _ | .readingRequeued _ _
  | .readingPending _ _ _ | .stopping _ | .joining _ | .done _ => [Session.event payload]

/-- A command succeeds if it has read of a success. -/
theorem Sample.failure?_eq_none_iff {sample : Sample} {seconds : UInt64} :
    sample.failure? seconds = none ↔ sample.sent.toNat ≠ 0 := by
  simp [failure?, ← UInt64.toNat_inj]

namespace Session

theorem stage_advance_ne_submitting {σ : Type} (session : Session σ) (isLate : Bool) :
    (session.advance isLate).stage ≠ .submitting := by
  cases stage : session.stage <;> simp only [advance, stage, ne_eq, reduceCtorEq, not_false_eq_true]
  all_goals split <;> simp

/-- What has been handed over is not taken back. -/
theorem stage_run_ne_submitting {σ : Type} {daemon : Daemon σ} (schedule : List Move)
    {session : Session σ} (handed : session.stage ≠ .submitting) :
    (session.run daemon settings schedule).stage ≠ .submitting := by
  induction schedule generalizing session with
  | nil => exact handed
  | cons move schedule ih =>
    apply ih
    cases move with
    | worker => exact handed
    | caller isLate => exact stage_advance_ne_submitting session isLate

/-- The only event of a session is that of the caller, and it is in one place. -/
structure Alone (payload : Payload) (session : Session σ) : Prop where
  accounted : session.machine.Accounted
  counted : session.machine.Counted
  handedOver_eq : session.machine.handedOver = session.stage.submitted payload
  program_eq : session.stage = .submitting → session.machine.programs 0 = [payload]

theorem alone_start (settings : DeliverySettings) (state : σ) (payload : Payload) :
    (start settings state payload).Alone payload where
  accounted := Machine.accounted_fresh settings state _
  counted := Machine.counted_fresh settings state _
  handedOver_eq := rfl
  program_eq := fun _ => rfl

section

variable {payload : Payload} {session : Session (Transport σ)}

theorem Alone.handedOver_advance (alone : session.Alone payload) (isLate : Bool) :
    (session.advance isLate).machine.handedOver
      = (session.advance isLate).stage.submitted payload := by
  have handedOver := alone.handedOver_eq
  cases stage : session.stage with
  | submitting =>
    rw [stage] at handedOver
    have arrivals : session.machine.worker.arrivals = 0 := by
      rw [alone.accounted.arrivals_eq, handedOver]
      rfl
    simp only [advance, stage, Machine.produce, alone.program_eq stage, handedOver, arrivals]
    rfl
  | waiting | watching | joining =>
    rw [stage] at handedOver
    simp only [advance, stage]
    split <;> exact handedOver
  | readingSent | readingRejected | readingRequeued | readingPending | stopping | done =>
    rw [stage] at handedOver
    simp only [advance, stage]
    exact handedOver

/-- Whoever moves, the event stays alone. -/
theorem Alone.move (alone : session.Alone payload) (link : Link σ ρ) (settings : DeliverySettings)
    (move : Move) : (session.move (Transport.daemon link) settings move).Alone payload where
  accounted := by
    rw [machine_move]
    exact alone.accounted.run _ _ _
  counted := by
    rw [machine_move]
    exact alone.counted.run _ _ _
  handedOver_eq := by
    cases move with
    | worker => exact (Machine.work_adds_nothing link settings _).1.trans alone.handedOver_eq
    | caller isLate => exact alone.handedOver_advance isLate
  program_eq := by
    intro submitting
    cases move with
    | worker =>
      have same := congrFun (Machine.work_adds_nothing link settings session.machine).2 0
      exact same.trans (alone.program_eq submitting)
    | caller isLate => exact absurd submitting (stage_advance_ne_submitting session isLate)

theorem Alone.run (alone : session.Alone payload) (link : Link σ ρ) (settings : DeliverySettings)
    (schedule : List Move) :
    (session.run (Transport.daemon link) settings schedule).Alone payload := by
  induction schedule generalizing session with
  | nil => exact alone
  | cons move schedule ih => exact ih (alone.move link settings move)

theorem Alone.handedOver_of_handed (alone : session.Alone payload)
    (handed : session.stage ≠ .submitting) : session.machine.handedOver = [event payload] := by
  rw [alone.handedOver_eq]
  cases stage : session.stage with
  | submitting => exact absurd stage handed
  | _ => rfl

/-- **Behind the first move of the caller, the event is in one place.** -/
theorem Alone.places_eq (alone : session.Alone payload) (handed : session.stage ≠ .submitting) :
    session.machine.places = [event payload] :=
  List.perm_singleton.mp (alone.handedOver_of_handed handed ▸ alone.accounted.perm).symm

/-- The event is accepted, rejected, waiting or unsettled, and only one of these. -/
theorem Alone.count (alone : session.Alone payload) (handed : session.stage ≠ .submitting) :
    session.machine.accepted.length + session.machine.rejected.length
      + session.machine.worker.pending + session.machine.unsettled.length = 1 := by
  have whole := congrArg List.length (alone.places_eq handed)
  have settled := (Attempts.settled_perm session.machine.trace.attempts).length_eq
  simp only [Machine.places, List.length_append, List.length_singleton] at whole settled
  have pending : session.machine.worker.pending = session.machine.worker.queue.toList.length := rfl
  simp only [Machine.accepted, Machine.rejected, Machine.unsettled, List.length_append, pending]
  omega

theorem Alone.eq_event (alone : session.Alone payload) (handed : session.stage ≠ .submitting)
    {events : List Event} (some : events ⊆ session.machine.places) (one : events.length = 1) :
    events = [event payload] := by
  rw [alone.places_eq handed] at some
  exact List.eq_replicate_iff.mpr ⟨one, fun other member => List.mem_singleton.mp (some member)⟩

theorem Alone.accepted_eq (alone : session.Alone payload) (handed : session.stage ≠ .submitting)
    (one : session.machine.accepted.length = 1) :
    session.machine.accepted = [event payload] := by
  refine alone.eq_event handed (fun other member => ?_) one
  have settled : other ∈ Attempts.settled session.machine.trace.attempts :=
    (Attempts.settled_perm _).mem_iff.mpr (List.mem_append_left _ member)
  simp only [Machine.places, List.mem_append, settled, true_or, or_true]

/-- Nothing wraps around: the totals, with what is yet to be counted, are the numbers of events. -/
theorem Alone.toNat_stats (alone : session.Alone payload) (handed : session.stage ≠ .submitting) :
    session.machine.worker.stats.sent.toNat + session.machine.phase.accepting.length
        = session.machine.accepted.length
      ∧ session.machine.worker.stats.rejected.toNat + session.machine.phase.rejecting.length
        = session.machine.rejected.length := by
  have count := alone.count handed
  have few : 1 < UInt64.size := by decide
  have counted := alone.counted
  exact ⟨Machine.toNat_total counted.sent_eq counted.accepting_suffix (by omega),
    Machine.toNat_total counted.rejected_eq counted.rejecting_suffix (by omega)⟩

/-- The event is counted, waiting or in hand, and only one of these. -/
theorem Alone.count_inHand (alone : session.Alone payload) (handed : session.stage ≠ .submitting) :
    session.machine.worker.stats.sent.toNat + session.machine.worker.stats.rejected.toNat
      + session.machine.worker.pending + session.machine.inHand.length = 1 := by
  have count := alone.count handed
  obtain ⟨sent, rejected⟩ := alone.toNat_stats handed
  rw [Machine.inHand, Phase.uncounted, List.length_append, List.length_append]
  omega

/-- What is in hand is the event. -/
theorem Alone.inHand_eq (alone : session.Alone payload) (handed : session.stage ≠ .submitting)
    (some : session.machine.inHand ≠ []) : session.machine.inHand = [event payload] := by
  have count := alone.count_inHand handed
  have positive := List.length_pos_iff.mpr some
  refine alone.eq_event handed (fun other member => ?_) (by omega)
  simp only [Machine.inHand, Machine.unsettled, List.mem_append] at member
  simp only [Machine.places, List.mem_append]
  rcases member with (held | lost) | uncounted
  · exact .inl (.inl (.inr held))
  · exact .inr lost
  · exact .inl (.inr (alone.counted.uncounted_subset uncounted))

end

/-! ## What a sample tells -/

variable {payload : Payload} {session : Session (Transport σ)} {first second third : List Move}
  {sample : Sample}

theorem Sampled.handed_first
    (sampled : Sampled (Transport.daemon link) settings session first second third sample) :
    (session.run (Transport.daemon link) settings first).stage ≠ .submitting := by
  rw [sampled.stage_first]
  nofun

theorem Sampled.handed_third
    (sampled : Sampled (Transport.daemon link) settings session first second third sample) :
    (session.run (Transport.daemon link) settings third).stage ≠ .submitting := by
  rw [sampled.stage_third]
  nofun

/-- **Each number tells of the moment at which it was read.** -/
theorem Alone.tells (alone : session.Alone payload)
    (sampled : Sampled (Transport.daemon link) settings session first second third sample) :
    sample.sent.toNat
        + (session.run (Transport.daemon link) settings first).machine.phase.accepting.length
      = (session.run (Transport.daemon link) settings first).machine.accepted.length
    ∧ sample.rejected.toNat
        + (session.run (Transport.daemon link) settings second).machine.phase.rejecting.length
      = (session.run (Transport.daemon link) settings second).machine.rejected.length
    ∧ sample.pending
      = (session.run (Transport.daemon link) settings third).machine.worker.pending := by
  have atSecond : (session.run (Transport.daemon link) settings second).stage ≠ .submitting := by
    rw [sampled.stage_second]
    nofun
  refine ⟨?_, ?_, sampled.pending_eq.symm⟩
  · rw [← sampled.sent_eq]
    exact ((alone.run link settings first).toNat_stats sampled.handed_first).1
  · rw [← sampled.rejected_eq]
    exact ((alone.run link settings second).toNat_stats atSecond).2

/-- The numbers do not tell of more than one event. -/
theorem Alone.total_le (alone : session.Alone payload)
    (sampled : Sampled (Transport.daemon link) settings session first second third sample) :
    sample.total ≤ 1 := by
  obtain ⟨sent, rejected, pending⟩ := alone.tells sampled
  have accepted := (accepted_grows (Transport.daemon link) settings session
    (sampled.early.trans sampled.late)).length_le
  have refused :=
    (rejected_grows (Transport.daemon link) settings session sampled.late).length_le
  have count := (alone.run link settings third).count sampled.handed_third
  rw [Sample.total, pending]
  omega

/-- If the numbers tell of nothing, the event was in hand at some moment while they were read. -/
theorem Alone.exists_inHand (alone : session.Alone payload)
    (sampled : Sampled (Transport.daemon link) settings session first second third sample)
    (none : sample.total = 0) :
    ∃ between, first <+: between ∧ between <+: third
      ∧ (session.run (Transport.daemon link) settings between).machine.inHand
        = [event payload] := by
  by_contra missing
  have empty (turns : List Move) (begun : first <+: turns) (late : turns <+: third) :
      (session.run (Transport.daemon link) settings turns).machine.inHand = [] := by
    by_contra some
    have handed : (session.run (Transport.daemon link) settings turns).stage ≠ .submitting := by
      obtain ⟨more, rfl⟩ := begun
      rw [run_append]
      exact stage_run_ne_submitting more sampled.handed_first
    exact missing ⟨turns, begun, late, (alone.run link settings turns).inHand_eq handed some⟩
  -- nothing is to be counted on the way, so what was read before is still true in the end
  have still {turns : List Move} (begun : first <+: turns) (late : turns <+: third) :
      (session.run (Transport.daemon link) settings third).machine.worker.stats.sent
          = (session.run (Transport.daemon link) settings turns).machine.worker.stats.sent
        ∧ (session.run (Transport.daemon link) settings third).machine.worker.stats.rejected
          = (session.run (Transport.daemon link) settings turns).machine.worker.stats.rejected := by
    obtain ⟨rest, rfl⟩ := late
    rw [run_append]
    apply totals_still
    intro earlier early
    rw [← run_append]
    have within := (List.prefix_append_right_inj turns).mpr early
    exact (List.append_eq_nil_iff.mp
      (empty _ (begun.trans (List.prefix_append _ _)) within)).2
  have count := (alone.run link settings third).count_inHand sampled.handed_third
  rw [(still List.prefix_rfl (sampled.early.trans sampled.late)).1, sampled.sent_eq,
    (still sampled.early sampled.late).2, sampled.rejected_eq, sampled.pending_eq,
    empty third (sampled.early.trans sampled.late) List.prefix_rfl, List.length_nil] at count
  rw [Sample.total] at none
  omega

/-- The command succeeds exactly if the acceptance was counted when the first number was read. -/
theorem Alone.succeeds_iff (alone : session.Alone payload)
    (sampled : Sampled (Transport.daemon link) settings session first second third sample)
    (seconds : UInt64) :
    let machine := (session.run (Transport.daemon link) settings first).machine
    sample.failure? seconds = none
      ↔ machine.accepted = [event payload] ∧ machine.phase.accepting = [] := by
  have count := (alone.run link settings first).count sampled.handed_first
  obtain ⟨sent, -, -⟩ := alone.tells sampled
  rw [Sample.failure?_eq_none_iff]
  constructor
  · intro some
    have counted : (session.run (Transport.daemon link) settings first).machine.phase.accepting
        = [] := List.length_eq_zero_iff.mp (by omega)
    exact ⟨(alone.run link settings first).accepted_eq sampled.handed_first (by omega), counted⟩
  · rintro ⟨accepted, counted⟩
    rw [accepted, counted, List.length_nil, List.length_singleton] at sent
    omega

/-- An event that a command reports as a success was accepted. -/
theorem accepted_of_done {state : Transport σ} {schedule : List Move} {seconds : UInt64}
    (ended : ((start settings state payload).run (Transport.daemon link) settings schedule).stage
      = .done sample)
    (succeeds : sample.failure? seconds = none) :
    event payload
      ∈ ((start settings state payload).run (Transport.daemon link) settings
        schedule).machine.accepted := by
  obtain ⟨first, second, third, early, sampled⟩ :=
    exists_sampled rfl (show Stage.sample? _ = some sample by rw [ended]; rfl)
  have alone : (start settings state payload).Alone payload := alone_start settings state payload
  have grown := accepted_grows (Transport.daemon link) settings (start settings state payload)
    (sampled.early.trans (sampled.late.trans early))
  rw [((alone.succeeds_iff sampled seconds).mp succeeds).1] at grown
  exact grown.subset List.mem_cons_self

/-- **What a command reports.**  Whatever the daemon answers and however caller and worker take
turns, each number of the report tells of the moment at which it was read: whether the event had
been counted as accepted, had been counted as rejected, or was waiting.  What the daemon answers the
worker counts only a turn later; until then a number lags behind the daemon.  So the numbers never
tell of more than one event; and if they tell of none, the worker had it in hand at some moment
while they were read: it held the event, had yet to count what settled it, or had lost it to a
panic.  The command succeeds if the daemon had accepted the event and the worker had counted that
when the first number was read, and only then; what is accepted or counted later is not
reported. -/
theorem sample_of_done (link : Link σ ρ) (settings : DeliverySettings) (state : Transport σ)
    (payload : Payload) {schedule : List Move} {sample : Sample}
    (ended : ((start settings state payload).run (Transport.daemon link) settings schedule).stage
      = .done sample) :
    let moment := fun turns =>
      ((start settings state payload).run (Transport.daemon link) settings turns).machine
    ∃ first second third, third <+: schedule
      ∧ Sampled (Transport.daemon link) settings (start settings state payload) first second third
          sample
      ∧ sample.sent.toNat + (moment first).phase.accepting.length
        = (moment first).accepted.length
      ∧ sample.rejected.toNat + (moment second).phase.rejecting.length
        = (moment second).rejected.length
      ∧ sample.pending = (moment third).worker.pending
      ∧ sample.total ≤ 1
      ∧ (sample.total = 0 → ∃ between, first <+: between ∧ between <+: third
          ∧ (moment between).inHand = [event payload])
      ∧ (∀ seconds, sample.failure? seconds = none
          ↔ (moment first).accepted = [event payload] ∧ (moment first).phase.accepting = [])
      ∧ (moment first).accepted <+: (moment schedule).accepted := by
  intro moment
  obtain ⟨first, second, third, early, sampled⟩ :=
    exists_sampled rfl (show Stage.sample? _ = some sample by rw [ended]; rfl)
  have alone : (start settings state payload).Alone payload := alone_start settings state payload
  obtain ⟨sent, rejected, pending⟩ := alone.tells sampled
  refine ⟨first, second, third, early, sampled, sent, rejected, pending, alone.total_le sampled,
    alone.exists_inHand sampled, alone.succeeds_iff sampled, ?_⟩
  exact accepted_grows _ settings _ (sampled.early.trans (sampled.late.trans early))

/-- A link to a daemon that can always be dialled, accepts every request, and counts them. -/
def obliging : Link Nat Unit where
  socketPath := "socket"
  dial := fun _ received => (.reached, received)
  exchange := fun _ _ received => (.ok (.ok ()), received + 1)

/-- If the event is accepted while the caller still waits, the command succeeds. -/
theorem sample_of_done_patient :
    let begun : Session (Transport Nat) := start {} { beyond := 0 } (.start [])
    let working : List Move := List.replicate 6 .worker
    let reading : List Move := List.replicate 7 (.caller false)
    let schedule := .caller false :: working ++ reading ++ [.worker, .caller false]
    (begun.run (Transport.daemon obliging) {} schedule).stage = .done ⟨1, 0, 0, 0⟩
      ∧ ∃ first, first <+: schedule
        ∧ (begun.run (Transport.daemon obliging) {} first).machine.accepted
          = [event (.start [])] := by
  intro begun working reading schedule
  have ended : (begun.run (Transport.daemon obliging) {} schedule).stage = .done ⟨1, 0, 0, 0⟩ := by
    decide
  obtain ⟨first, second, third, early, sampled, -, -, -, -, -, succeeds, -⟩ :=
    sample_of_done obliging {} _ _ ended
  refine ⟨ended, first, (sampled.early.trans sampled.late).trans early, ?_⟩
  exact ((succeeds 1).mp (by decide)).1

/-- The time is over while the daemon is called: all that is read is nothing, and the command fails.
But the daemon accepts the event before the command has ended. -/
theorem accepted_after_sample :
    let begun : Session (Transport Nat) := start {} { beyond := 0 } (.start [])
    let working : List Move := List.replicate 4 .worker
    let reading : List Move := .caller true :: List.replicate 5 (.caller false)
    let schedule :=
      .caller false :: working ++ reading ++ [.worker, .worker, .worker, .caller false]
    let ended := begun.run (Transport.daemon obliging) {} schedule
    let sample : Sample := ⟨0, 0, 0, 0⟩
    ended.stage = .done sample ∧ sample.total ≠ 1
      ∧ sample.failure? 1 = some (.undelivered 1)
      ∧ ended.machine.accepted = [event (.start [])]
      ∧ ended.machine.worker.daemon.beyond = 1 := by
  decide

/-- The same is read when the daemon has accepted the event and the worker is about to count
that. -/
example :
    let begun : Session (Transport Nat) := start {} { beyond := 0 } (.start [])
    let called := begun.run (Transport.daemon obliging) {} (.caller false :: .replicate 5 .worker)
    called.machine.accepted = [event (.start [])]
      ∧ called.machine.phase.accepting = [event (.start [])]
      ∧ (called.run (Transport.daemon obliging) {}
        (.caller true :: .replicate 5 (.caller false))).stage.sample? = some ⟨0, 0, 0, 0⟩ := by
  decide

end Session

end Cli

end JobHooks
