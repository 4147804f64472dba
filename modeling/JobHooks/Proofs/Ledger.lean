import JobHooks.Proofs.Pass

/-!
# The ledger

A `Deed` is what is done with a worker at one go: events are handed over, the request to stop or the
state of the daemon changes, or a pass is made.  Whatever it is, `Ledger` says where every event was
before and is after it: events that were waiting or arrived before the batch was taken are in the
batch or kept, those of the batch are settled, returned or lost, and what is waiting in the end is
what was kept, what arrived during the calls, and what was returned, in this order.
-/

namespace JobHooks

set_option autoImplicit false

/-! ## Deeds -/

/-- What is done with a worker at one go. -/
inductive Deed where
  | enqueued (events : List Event)
  | stopSet (stop : Bool)
  | adjusted
  | passed (outcome : Except Panic PassOutcome) (trace : Trace)

namespace Deed

/-- What was handed over, before or during the calls. -/
def arrived : Deed → List Event
  | enqueued events => events
  | passed _ trace => trace.arrived
  | _ => []

/-- The batch that was taken. -/
def taken : Deed → List Event
  | passed _ trace => trace.taken
  | _ => []

/-- The calls that were made. -/
def attempts : Deed → List Attempt
  | passed _ trace => trace.attempts
  | _ => []

/-- Whether it ended with a panic. -/
def broken : Deed → Bool
  | passed (.error _) _ => true
  | _ => false

/-- The events that were put off: the last ones of the batch, as many as the outcome says. -/
def putOff : Deed → List Event
  | passed (.ok (.deferred _ _ requeued)) trace =>
    trace.taken.drop (trace.taken.length - requeued)
  | _ => []

/-- The events that were lost: for each call that panicked, those of the batch from the one that it
was made for to the end. -/
def lost (deed : Deed) : List Event :=
  (deed.attempts.filter (·.verdict = .panicked)).flatMap fun attempt =>
    deed.taken.dropWhile (· ≠ attempt.event)

/-- A pass puts off what goes back to the queue. -/
theorem putOff_passed {trace : Trace} {settled : List Event} {finish : Finish}
    (batch : trace.taken = settled ++ finish.unsettled) (sent rejected : Nat) :
    (passed (finish.outcome sent rejected) trace).putOff = finish.returned := by
  cases finish with
  | drained => rfl
  | deferred last left => simp [putOff, Finish.outcome, batch, Finish.unsettled, Finish.returned]
  | broken last panic left => rfl

/-- A pass that does not panic loses nothing. -/
theorem lost_eq_nil {trace : Trace} {finish : Finish} {sent rejected : Nat}
    (unbroken : (passed (finish.outcome sent rejected) trace).broken = false) :
    finish.lost = [] := by
  cases finish with
  | drained => rfl
  | deferred last left => rfl
  | broken last panic left => exact absurd unbroken Bool.noConfusion

end Deed

namespace Worker

variable {σ : Type}

/-! ## Where the events are -/

/-- Where the events are before and after a deed.  What arrived before the batch was taken is
`early`, and `kept` is what was waiting then and was not taken.  The batch was sent as far as `done`
and `finish` say. -/
structure Ledger (before : Worker σ) (deed : Deed) (after : Worker σ) (early kept : List Event)
    (done : List Attempt) (finish : Finish) : Prop where
  waiting_eq : before.queue.toList ++ early = deed.taken ++ kept
  all_or_none : kept = [] ∨ deed.taken = []
  batch_eq : deed.taken = done.map Attempt.event ++ finish.unsettled
  settled : ∀ attempt ∈ done, attempt.verdict.settles = true
  sound : finish.Sound
  attempts_eq : deed.attempts = done ++ finish.attempts
  arrived_eq : deed.arrived = early ++ Attempts.arrived deed.attempts
  consecutive : Event.Consecutive before.arrivals deed.arrived
  arrivals_eq : after.arrivals = before.arrivals + deed.arrived.length
  queue_eq : after.queue.toList = kept ++ Attempts.arrived deed.attempts ++ finish.returned
  putOff_eq : deed.putOff = finish.returned
  nothing_lost : deed.broken = false → finish.lost = []
  stats_eq : after.stats =
    { before.stats with
      dequeued := before.stats.dequeued + UInt64.ofNat deed.taken.length }.credit
      (Attempts.withVerdict .accepted done).length
      (Attempts.withVerdict .rejected done).length finish.returned.length

section

variable {before after : Worker σ} {deed : Deed} {early kept : List Event} {done : List Attempt}
  {finish : Finish}

/-- What was waiting or arrived early is kept, settled, returned or lost. -/
theorem Ledger.waiting_split (ledger : Ledger before deed after early kept done finish) :
    before.queue.toList ++ early
      = done.map Attempt.event ++ (finish.returned ++ finish.lost) ++ kept := by
  rw [ledger.waiting_eq, ledger.batch_eq, finish.unsettled_eq]

/-- Where nothing is lost, what was waiting or arrived early is settled, kept or returned, in this
order: if something was taken, nothing was kept. -/
theorem Ledger.waiting_order (ledger : Ledger before deed after early kept done finish)
    (nothing : finish.lost = []) :
    before.queue.toList ++ early = done.map Attempt.event ++ (kept ++ finish.returned) := by
  have split := ledger.waiting_split
  have batch := ledger.batch_eq
  rw [finish.unsettled_eq] at batch
  rw [nothing, List.append_nil] at split batch
  rcases ledger.all_or_none with none | none
  · rw [split, none, List.append_nil, List.nil_append]
  · rw [none] at batch
    obtain ⟨nobody, nothing⟩ := List.append_eq_nil_iff.mp batch.symm
    simp only [split, nobody, nothing, List.append_nil, List.nil_append]

/-- An event that is returned has been taken, so that nothing was kept. -/
theorem Ledger.kept_eq_nil (ledger : Ledger before deed after early kept done finish)
    (some : finish.unsettled ≠ []) : kept = [] := by
  rcases ledger.all_or_none with none | none
  · exact none
  · exact absurd (List.append_eq_nil_iff.mp (ledger.batch_eq.symm.trans none)).2 some

/-- The events that were settled. -/
theorem Ledger.settled_eq (ledger : Ledger before deed after early kept done finish) :
    Attempts.settled deed.attempts = done.map Attempt.event := by
  have none : Attempts.settled finish.attempts = [] := by
    rw [Attempts.settled, List.map_eq_nil_iff, List.filter_eq_nil_iff]
    intro attempt member
    rw [ledger.sound.settles member]
    exact Bool.false_ne_true
  rw [ledger.attempts_eq, Attempts.settled_append, none, Attempts.settled_eq_map ledger.settled,
    List.append_nil]

/-- A call that ended the batch has neither been accepted nor been rejected. -/
theorem Ledger.withVerdict_eq (ledger : Ledger before deed after early kept done finish)
    {verdict : Verdict} (settles : verdict.settles = true) :
    Attempts.withVerdict verdict deed.attempts = Attempts.withVerdict verdict done := by
  rw [ledger.attempts_eq, Attempts.withVerdict_append,
    Attempts.withVerdict_eq_nil settles fun _ => ledger.sound.settles, List.append_nil]

/-- The totals go up by the events that were accepted and rejected. -/
theorem Ledger.counted (ledger : Ledger before deed after early kept done finish) :
    after.stats.sent = before.stats.sent
        + UInt64.ofNat (Attempts.withVerdict .accepted deed.attempts).length
      ∧ after.stats.rejected = before.stats.rejected
        + UInt64.ofNat (Attempts.withVerdict .rejected deed.attempts).length := by
  rw [ledger.withVerdict_eq rfl, ledger.withVerdict_eq rfl, ledger.stats_eq]
  exact ⟨rfl, rfl⟩

/-- The events that were lost.  Where no event is twice in a batch, the one whose call panicked is
the first one that the calls before it were not made for. -/
theorem Ledger.lost_eq (ledger : Ledger before deed after early kept done finish)
    (nodup : deed.taken.Nodup) : deed.lost = finish.lost := by
  have settled : done.filter (·.verdict = .panicked) = [] := by
    rw [List.filter_eq_nil_iff]
    intro attempt member same
    exact Verdict.ne_of_settles (ledger.settled attempt member) rfl (of_decide_eq_true same)
  have batch := ledger.batch_eq
  rw [Deed.lost, ledger.attempts_eq, List.filter_append, settled, List.nil_append]
  cases finish with
  | drained => rfl
  | deferred last left =>
    have unavailable : last.verdict = .unavailable := ledger.sound
    simp [Finish.attempts, Finish.lost, unavailable]
  | broken last panic left =>
    have panicked := Attempt.verdict_eq_panicked_iff.mpr ⟨panic, ledger.sound⟩
    rw [batch, Finish.unsettled] at nodup
    have apart := (List.nodup_append.mp nodup).2.2
    have others : ∀ event ∈ done.map Attempt.event, decide (event ≠ last.event) = true :=
      fun event member => decide_eq_true (apart event member last.event List.mem_cons_self)
    simp only [Finish.attempts, List.filter_cons, panicked, decide_true, if_true, List.filter_nil,
      List.flatMap_cons, List.flatMap_nil, List.append_nil, batch, Finish.unsettled, Finish.lost]
    rw [List.dropWhile_append_of_pos others, List.dropWhile_cons_of_neg]
    simp

end

/-- A deed that takes nothing. -/
theorem Ledger.of_quiet {before after : Worker σ} {deed : Deed} (taken : deed.taken = [])
    (attempts : deed.attempts = []) (putOff : deed.putOff = [])
    (consecutive : Event.Consecutive before.arrivals deed.arrived)
    (queue : after.queue.toList = before.queue.toList ++ deed.arrived)
    (arrivals : after.arrivals = before.arrivals + deed.arrived.length)
    (stats : after.stats = before.stats) :
    Ledger before deed after deed.arrived after.queue.toList [] .drained where
  waiting_eq := by rw [taken, queue, List.nil_append]
  all_or_none := .inr taken
  batch_eq := taken
  settled := fun attempt member => absurd member List.not_mem_nil
  sound := trivial
  attempts_eq := attempts
  arrived_eq := by rw [attempts, Attempts.arrived_nil, List.append_nil]
  consecutive := consecutive
  arrivals_eq := arrivals
  queue_eq := by
    rw [attempts, Attempts.arrived_nil, Finish.returned, List.append_nil, List.append_nil]
  putOff_eq := putOff
  nothing_lost := fun _ => rfl
  stats_eq := by
    have none : UInt64.ofNat 0 = 0 := rfl
    simp only [taken, stats, Attempts.withVerdict_nil, Finish.returned, List.length_nil, none,
      UInt64.add_zero, DeliveryStats.credit_zero]

theorem Ledger.of_enqueue (worker : Worker σ) (payloads : List Payload) :
    Ledger worker (.enqueued (Event.numbered worker.arrivals payloads)) (worker.enqueue payloads)
      (Event.numbered worker.arrivals payloads) (worker.enqueue payloads).queue.toList []
      .drained :=
  .of_quiet rfl rfl rfl (Event.consecutive_numbered _ _) rfl
    (congrArg (worker.arrivals + ·) (Event.length_numbered _ _).symm) rfl

theorem Ledger.of_setStop (worker : Worker σ) (stop : Bool) :
    Ledger worker (.stopSet stop) (worker.setStop stop) [] worker.queue.toList [] .drained :=
  .of_quiet rfl rfl rfl (Event.consecutive_nil _) (List.append_nil _).symm rfl rfl

theorem Ledger.of_adjust (worker : Worker σ) (state : σ) :
    Ledger worker .adjusted { worker with daemon := state } [] worker.queue.toList [] .drained :=
  .of_quiet rfl rfl rfl (Event.consecutive_nil _) (List.append_nil _).symm rfl rfl

/-! ## The ledger of a pass -/

variable (daemon : Daemon σ) (settings : DeliverySettings)

/-- The ledger of a pass, together with what it has to do with the daemon: its calls are those of
an exchange, which begins where the daemon was left by the poll, if there was one. -/
structure Passed (worker : Worker σ) (progress : Progress σ PassOutcome)
    (early kept : List Event) (done : List Attempt) (finish : Finish) : Prop extends
    Ledger worker (.passed progress.outcome progress.trace) progress.worker early kept done finish
    where
  exchanged : ∃ start after : Worker σ,
    (start.daemon = worker.daemon ∨ start.daemon = (polling daemon worker).next)
      ∧ exchange daemon settings (progress.trace.attempts.map Attempt.event) start
        = (progress.trace.attempts, after)
      ∧ progress.worker.daemon = after.daemon

variable {daemon settings} {worker : Worker σ}

/-- A pass that does nothing. -/
theorem Passed.of_stop :
    Passed daemon settings worker ⟨.ok .stopped, [], worker⟩ [] worker.queue.toList []
      .drained where
  toLedger :=
    .of_quiet rfl rfl rfl (Event.consecutive_nil _) (List.append_nil _).symm rfl rfl
  exchanged := ⟨worker, worker, .inl rfl, rfl, rfl⟩

/-- A pass that polls and takes nothing. -/
theorem Passed.of_poll {outcome : Except Panic PassOutcome} {reported : List Notice}
    {after : Worker σ} (queue : after.queue = (polled daemon worker).queue)
    (arrivals : after.arrivals = (polled daemon worker).arrivals)
    (stats : after.stats = worker.stats) (state : after.daemon = (polling daemon worker).next)
    (other : ∀ trace : Trace, trace.taken = [] → (Deed.passed outcome trace).putOff = []) :
    Passed daemon settings worker ⟨outcome, pollTrace daemon reported worker, after⟩
      (pollTrace daemon reported worker).arrived after.queue.toList [] .drained where
  toLedger := by
    refine .of_quiet (taken_pollTrace _) (attempts_pollTrace _) (other _ (taken_pollTrace _)) ?_ ?_
      ?_ stats
    · simp only [Deed.arrived, arrived_pollTrace]
      exact consecutive_meanwhile _ _
    · simp only [Deed.arrived, arrived_pollTrace, queue]
      rfl
    · simp only [Deed.arrived, arrived_pollTrace, arrivals, polled, arrivals_absorb]
  exchanged := by
    refine ⟨polled daemon worker, polled daemon worker, .inr rfl, ?_, state⟩
    rw [attempts_pollTrace]
    rfl

/-- A pass that sends what was waiting after its poll. -/
theorem Passed.of_sent {progress : Progress σ PassOutcome} {done : List Attempt} {finish : Finish}
    (sent : Sent daemon settings (polled daemon worker).queue.toList 0 0
      ((polled daemon worker).observed true).emptied progress done finish) :
    Passed daemon settings worker (goOn daemon worker progress)
      (worker.meanwhile (polling daemon worker).effects).arrived [] done finish := by
  let start := ((polled daemon worker).observed true).emptied
  let deed : Deed := .passed (goOn daemon worker progress).outcome
    (goOn daemon worker progress).trace
  have outcome : (goOn daemon worker progress).outcome = _ := sent.outcome_eq
  have taken : deed.taken = (polled daemon worker).queue.toList := by
    simp only [deed, Deed.taken, taken_goOn, sent.taken_eq, List.append_nil]
  have attempts : deed.attempts = progress.trace.attempts := attempts_goOn progress
  have arrived : deed.arrived
      = (worker.meanwhile (polling daemon worker).effects).arrived
        ++ Attempts.arrived progress.trace.attempts := by
    simp only [deed, Deed.arrived, arrived_goOn, sent.arrived_eq, sent.attempts_eq]
  have arrivals : start.arrivals
      = worker.arrivals + (worker.meanwhile (polling daemon worker).effects).arrived.length :=
    arrivals_absorb worker _ (polling daemon worker).next
  exact {
    waiting_eq := taken.symm.trans (List.append_nil _).symm
    all_or_none := .inl rfl
    batch_eq := taken.trans sent.batch_eq
    settled := sent.settled
    sound := sent.sound
    attempts_eq := attempts.trans sent.attempts_eq
    arrived_eq := arrived.trans (congrArg (_ ++ Attempts.arrived ·) attempts.symm)
    consecutive := by
      have later : Event.Consecutive start.arrivals _ := sent.consecutive
      rw [arrivals] at later
      rw [arrived]
      exact (consecutive_meanwhile worker _).append later
    arrivals_eq := by
      have later : progress.worker.arrivals = start.arrivals + _ := sent.arrivals_eq
      rw [arrived, List.length_append, ← Nat.add_assoc, ← arrivals]
      exact later
    queue_eq := by
      rw [attempts]
      exact sent.queue_eq
    putOff_eq := by
      rw [outcome]
      exact Deed.putOff_passed (taken.trans sent.batch_eq) _ _
    nothing_lost := by
      rw [outcome]
      exact Deed.lost_eq_nil
    stats_eq := by
      rw [taken]
      exact sent.stats_eq
    exchanged := by
      obtain ⟨last, exchanged, state⟩ := sent.exchanged
      refine ⟨start, last, .inr rfl, ?_, state⟩
      rw [attempts_goOn]
      exact exchanged }

/-- **The ledger of a pass.** -/
theorem exists_passed (daemon : Daemon σ) (settings : DeliverySettings) (worker : Worker σ) :
    ∃ early kept done finish,
      Passed daemon settings worker (pass daemon settings worker) early kept done finish := by
  have course := course_of_pass daemon settings worker
  generalize pass daemon settings worker = progress at course ⊢
  cases course with
  | stopped => exact ⟨_, _, _, _, .of_stop⟩
  | panicked => exact ⟨_, _, _, _, .of_poll rfl rfl rfl rfl fun _ _ => rfl⟩
  | disconnected => exact ⟨_, _, _, _, .of_poll rfl rfl rfl rfl fun _ _ => rfl⟩
  | idle => exact ⟨_, _, _, _, .of_poll rfl rfl rfl rfl fun _ _ => rfl⟩
  | sent _ _ _ sent => exact ⟨_, _, _, _, .of_sent sent⟩

end Worker

end JobHooks
