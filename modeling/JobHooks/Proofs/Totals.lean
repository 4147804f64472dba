import JobHooks.Proofs.Retry
import JobHooks.Proofs.Stop

/-!
# The totals of the worker

The worker keeps four totals, which it adds to at different places: what it took is counted before
the first call for a batch, what was accepted or rejected after each call, and what goes back to the
queue at the end.  They are numbers of 64 bits, which wrap around.

`History.Tallied` says what the two totals count that `History.counted_run` is not about, and how
the numbers of events are related; here nothing wraps around.  That an outcome reports what its pass
did is `Deed.Faithful`.  `History.totals_balance` draws from both how the totals are related to each
other, to the queue, and to the outcomes.
-/

namespace JobHooks

set_option autoImplicit false

/-! ## What an outcome reports -/

namespace PassOutcome

/-- How many events a pass reports as accepted. -/
def sent : PassOutcome → Nat
  | drained sent _ | deferred sent _ _ => sent
  | stopped | disconnected | idle => 0

/-- How many events a pass reports as rejected. -/
def rejected : PassOutcome → Nat
  | drained _ rejected | deferred _ rejected _ => rejected
  | stopped | disconnected | idle => 0

/-- How many events a pass reports as put off. -/
def requeued : PassOutcome → Nat
  | deferred _ _ requeued => requeued
  | drained _ _ | stopped | disconnected | idle => 0

/-- What some outcomes report together. -/
def total (field : PassOutcome → Nat) (outcomes : List PassOutcome) : Nat :=
  outcomes.foldr (fun outcome others => field outcome + others) 0

theorem total_append (field : PassOutcome → Nat) (outcomes others : List PassOutcome) :
    total field (outcomes ++ others) = total field outcomes + total field others := by
  induction outcomes with
  | nil => exact (Nat.zero_add _).symm
  | cons outcome outcomes ih => exact (congrArg _ ih).trans (Nat.add_assoc _ _ _).symm

end PassOutcome

namespace Deed

/-- What a pass came to, unless it panicked. -/
def outcomes : Deed → List PassOutcome
  | passed (.ok outcome) _ => [outcome]
  | _ => []

/-- What is reported is what was done. -/
structure Faithful (deed : Deed) : Prop where
  sent_eq : PassOutcome.total PassOutcome.sent deed.outcomes
    = (Attempts.withVerdict .accepted deed.attempts).length
  rejected_eq : PassOutcome.total PassOutcome.rejected deed.outcomes
    = (Attempts.withVerdict .rejected deed.attempts).length
  requeued_eq : PassOutcome.total PassOutcome.requeued deed.outcomes = deed.putOff.length

/-- The outcome of a pass whose batch ended without a panic reports what was done. -/
theorem faithful_of_finish {trace : Trace} {done : List Attempt} {finish : Finish}
    {sent rejected : Nat} (batch : trace.taken = done.map Attempt.event ++ finish.unsettled)
    (accepted : sent = (Attempts.withVerdict .accepted trace.attempts).length)
    (refused : rejected = (Attempts.withVerdict .rejected trace.attempts).length)
    (unbroken : (passed (finish.outcome sent rejected) trace).broken = false) :
    (passed (finish.outcome sent rejected) trace).Faithful := by
  have putOff := congrArg List.length (putOff_passed batch sent rejected)
  cases finish with
  | drained => exact ⟨accepted, refused, putOff.symm⟩
  | deferred last left => exact ⟨accepted, refused, putOff.symm⟩
  | broken last panic left => cases unbroken

/-- A pass that sends nothing reports nothing. -/
theorem faithful_of_silent {outcome : PassOutcome} {trace : Trace}
    (silent : outcome = .stopped ∨ outcome = .disconnected ∨ outcome = .idle)
    (attempts : trace.attempts = []) : (passed (.ok outcome) trace).Faithful := by
  refine ⟨?_, ?_, ?_⟩
  · rw [Deed.attempts, attempts]
    rcases silent with rfl | rfl | rfl <;> rfl
  · rw [Deed.attempts, attempts]
    rcases silent with rfl | rfl | rfl <;> rfl
  · rcases silent with rfl | rfl | rfl <;> rfl

end Deed

namespace Worker

variable {σ : Type} {daemon : Daemon σ} {settings : DeliverySettings}

/-- **A pass that does not panic reports what it did.** -/
theorem faithful_pass (worker : Worker σ)
    (unbroken : (Deed.passed (pass daemon settings worker).outcome
      (pass daemon settings worker).trace).broken = false) :
    (Deed.passed (pass daemon settings worker).outcome
      (pass daemon settings worker).trace).Faithful := by
  have course := course_of_pass daemon settings worker
  generalize pass daemon settings worker = progress at course unbroken ⊢
  cases course with
  | stopped => exact Deed.faithful_of_silent (.inl rfl) rfl
  | panicked => cases unbroken
  | disconnected => exact Deed.faithful_of_silent (.inr (.inl rfl)) (attempts_pollTrace _)
  | idle => exact Deed.faithful_of_silent (.inr (.inr rfl)) (attempts_pollTrace _)
  | sent going answer waiting sent =>
    have ledger := (Passed.of_sent sent).toLedger
    have outcome : (goOn daemon worker _).outcome = _ := sent.outcome_eq
    rw [outcome] at unbroken ⊢
    refine Deed.faithful_of_finish ledger.batch_eq ?_ ?_ unbroken
    · rw [Nat.zero_add]
      exact congrArg List.length (ledger.withVerdict_eq rfl).symm
    · rw [Nat.zero_add]
      exact congrArg List.length (ledger.withVerdict_eq rfl).symm

end Worker

/-! ## The totals of a history -/

namespace History

variable {σ : Type}

/-- Every event that was ever taken, once for each time. -/
def taken (history : History σ) : List Event := history.deeds.flatMap Deed.taken

/-- Every event that was ever put off, once for each time. -/
def putOff (history : History σ) : List Event := history.deeds.flatMap Deed.putOff

/-- What the passes that did not panic came to. -/
def outcomes (history : History σ) : List PassOutcome := history.deeds.flatMap Deed.outcomes

variable {daemon : Daemon σ} {settings : DeliverySettings} {history after : History σ} {deed : Deed}
  {early kept : List Event} {done : List Attempt} {finish : Finish}

theorem taken_of_deeds (deeds : after.deeds = history.deeds ++ [deed]) :
    after.taken = history.taken ++ deed.taken :=
  flatMap_of_deeds Deed.taken deeds

theorem putOff_of_deeds (deeds : after.deeds = history.deeds ++ [deed]) :
    after.putOff = history.putOff ++ deed.putOff :=
  flatMap_of_deeds Deed.putOff deeds

/-- The totals of what was taken and put off, and the number of events taken: every time that an
event was taken, it was accepted, rejected, put off or lost. -/
structure Tallied (history : History σ) : Prop where
  dequeued_eq : history.worker.stats.dequeued = UInt64.ofNat history.taken.length
  requeued_eq : history.worker.stats.requeued = UInt64.ofNat history.putOff.length
  length_taken : history.taken.length
    = history.settled.length + history.putOff.length + history.lost.length

/-- **A deed keeps the tally.** -/
theorem Tallied.advance (tallied : history.Tallied) (balanced : history.Balanced)
    (deeds : after.deeds = history.deeds ++ [deed])
    (ledger : Worker.Ledger history.worker deed after.worker early kept done finish) :
    after.Tallied := by
  have lost : deed.lost = finish.lost := ledger.lost_eq (balanced.nodup_taken ledger)
  refine ⟨?_, ?_, ?_⟩
  · rw [taken_of_deeds deeds, List.length_append, UInt64.ofNat_add, ← tallied.dequeued_eq,
      ledger.stats_eq]
    rfl
  · rw [putOff_of_deeds deeds, List.length_append, UInt64.ofNat_add, ← tallied.requeued_eq,
      ledger.putOff_eq, ledger.stats_eq]
    rfl
  · have earlier := tallied.length_taken
    have batch := congrArg List.length ledger.batch_eq
    rw [finish.unsettled_eq] at batch
    rw [taken_of_deeds deeds, settled_of_ledger deeds ledger, putOff_of_deeds deeds,
      lost_of_deeds deeds, ledger.putOff_eq, lost]
    simp only [List.length_append] at batch ⊢
    omega

theorem tallied_run (daemon : Daemon σ) (settings : DeliverySettings) (state : σ)
    (actions : List (Action σ)) : (run daemon settings actions (fresh settings state)).Tallied := by
  refine (run_induction (motive := fun history => history.Balanced ∧ history.Tallied)
    ⟨balanced_fresh settings state, rfl, rfl, rfl⟩ ?_).2
  intro history action _ ⟨balanced, tallied⟩
  obtain ⟨deed, early, kept, done, finish, deeds, ledger⟩ :=
    exists_ledger daemon settings history action
  exact ⟨balanced.advance deeds ledger, tallied.advance balanced deeds ledger⟩

/-- **What the passes of a history did is what they report**, but for those that panicked. -/
theorem faithful_run (daemon : Daemon σ) (settings : DeliverySettings) (state : σ)
    (actions : List (Action σ)) :
    ∀ deed ∈ (run daemon settings actions (fresh settings state)).deeds,
      deed.broken = false → deed.Faithful := by
  refine run_induction
    (motive := fun history => ∀ deed ∈ history.deeds, deed.broken = false → deed.Faithful)
    (fun _ member => absurd member List.not_mem_nil) ?_
  intro history action _ earlier
  cases action with
  | enqueue | setStop | adjust =>
    exact List.forall_mem_append.mpr
      ⟨earlier, List.forall_mem_singleton.mpr fun _ => ⟨rfl, rfl, rfl⟩⟩
  | pass =>
    exact List.forall_mem_append.mpr
      ⟨earlier, List.forall_mem_singleton.mpr (Worker.faithful_pass history.worker)⟩

/-- What all outcomes report together, if each deed reports some part of itself. -/
theorem total_outcomes {α : Type} (field : PassOutcome → Nat) (part : Deed → List α)
    (each : ∀ deed ∈ history.deeds, PassOutcome.total field deed.outcomes = (part deed).length) :
    PassOutcome.total field history.outcomes = (history.deeds.flatMap part).length := by
  rw [outcomes]
  generalize history.deeds = deeds at each
  induction deeds with
  | nil => rfl
  | cons deed deeds ih =>
    obtain ⟨first, others⟩ := List.forall_mem_cons.mp each
    rw [List.flatMap_cons, List.flatMap_cons, PassOutcome.total_append, first, ih others,
      List.length_append]

/-- The events with a verdict, deed by deed. -/
theorem flatMap_withVerdict (verdict : Verdict) (history : History σ) :
    (history.deeds.flatMap fun deed => Attempts.withVerdict verdict deed.attempts)
      = Attempts.withVerdict verdict history.attempts := by
  rw [attempts, Attempts.withVerdict, List.filter_flatMap, List.map_flatMap]
  rfl

/-- **The totals are in balance** at the end of every run, as numbers of 64 bits.

What was taken was accepted, rejected, put off or lost with a panic; what was handed over or put off
was taken or is waiting.  The totals of what was accepted and rejected count the calls that were
answered so.  Where nothing panics, nothing is lost, and the totals are the sums of what the
outcomes report. -/
theorem totals_balance (daemon : Daemon σ) (settings : DeliverySettings) (state : σ)
    (actions : List (Action σ)) :
    let history := run daemon settings actions (fresh settings state)
    let stats := history.worker.stats
    stats.dequeued
        = stats.sent + stats.rejected + stats.requeued + UInt64.ofNat history.lost.length
      ∧ UInt64.ofNat history.handedOver.length + stats.requeued
        = stats.dequeued + UInt64.ofNat history.waiting.length
      ∧ stats.sent
        = UInt64.ofNat (history.attempts.countP (·.verdict = .accepted))
      ∧ stats.rejected
        = UInt64.ofNat (history.attempts.countP (·.verdict = .rejected))
      ∧ (history.Unbroken →
        stats.dequeued = stats.sent + stats.rejected + stats.requeued
          ∧ stats.sent = UInt64.ofNat (PassOutcome.total PassOutcome.sent history.outcomes)
          ∧ stats.rejected = UInt64.ofNat (PassOutcome.total PassOutcome.rejected history.outcomes)
          ∧ stats.requeued
            = UInt64.ofNat (PassOutcome.total PassOutcome.requeued history.outcomes)) := by
  intro history stats
  have balanced : history.Balanced := balanced_run daemon settings state actions
  have tallied : history.Tallied := tallied_run daemon settings state actions
  obtain ⟨sent, rejected⟩ : stats.sent = UInt64.ofNat history.accepted.length
      ∧ stats.rejected = UInt64.ofNat history.rejected.length :=
    counted_run daemon settings state actions
  have dequeued : stats.dequeued = UInt64.ofNat history.taken.length := tallied.dequeued_eq
  have requeued : stats.requeued = UInt64.ofNat history.putOff.length := tallied.requeued_eq
  have settled : history.settled.length = history.accepted.length + history.rejected.length := by
    rw [settled, (Attempts.settled_perm history.attempts).length_eq, List.length_append]
    rfl
  have places := balanced.perm.length_eq
  have taken := tallied.length_taken
  rw [List.length_append, List.length_append] at places
  rw [settled] at places taken
  have split : stats.dequeued
      = stats.sent + stats.rejected + stats.requeued + UInt64.ofNat history.lost.length := by
    rw [dequeued, sent, rejected, requeued, taken]
    simp only [UInt64.ofNat_add]
  refine ⟨split, ?_, ?_, ?_, ?_⟩
  · have whole : history.handedOver.length + history.putOff.length
        = history.taken.length + history.waiting.length := by omega
    rw [requeued, dequeued, ← UInt64.ofNat_add, ← UInt64.ofNat_add, whole]
  · rw [sent, accepted, Attempts.withVerdict, List.length_map, ← List.countP_eq_length_filter]
  · rw [rejected, History.rejected, Attempts.withVerdict, List.length_map,
      ← List.countP_eq_length_filter]
  · intro unbroken
    have faithful : ∀ deed ∈ history.deeds, deed.Faithful := fun deed done =>
      faithful_run daemon settings state actions deed done (unbroken deed done)
    refine ⟨?_, ?_, ?_, ?_⟩
    · rw [split, balanced.nothing_lost unbroken]
      exact UInt64.add_zero _
    · rw [sent, total_outcomes _ _ fun deed done => (faithful deed done).sent_eq,
        flatMap_withVerdict, accepted]
    · rw [rejected, total_outcomes _ _ fun deed done => (faithful deed done).rejected_eq,
        flatMap_withVerdict, History.rejected]
    · rw [requeued, total_outcomes _ _ fun deed done => (faithful deed done).requeued_eq, putOff]

/-- Two events are put off twice, and two that arrive in the first pass once. -/
theorem totals_balance_falling :
    let actions : List (Action Nat) :=
      [.enqueue [.start [], .start [], .start []], .pass, .setStop false, .pass]
    let history := run Worker.falling {} actions (fresh {} 0)
    let stats := history.worker.stats
    history.Unbroken
      ∧ history.outcomes = [.deferred 1 0 2, .deferred 0 0 4]
      ∧ stats.dequeued = stats.sent + stats.rejected + stats.requeued
      ∧ stats.sent = UInt64.ofNat 1 ∧ stats.requeued = UInt64.ofNat 6 := by
  intro actions history stats
  have unbroken : history.Unbroken := by
    rw [Unbroken]
    decide
  have outcomes : history.outcomes = [.deferred 1 0 2, .deferred 0 0 4] := rfl
  obtain ⟨-, -, -, -, reported⟩ := totals_balance Worker.falling {} 0 actions
  obtain ⟨taken, sent, -, requeued⟩ := reported unbroken
  exact ⟨unbroken, outcomes, taken, sent, requeued⟩

end History

end JobHooks
