import JobHooks.Proofs.Ledger
import Mathlib.Data.Multiset.AddSub

/-!
# Histories

A history is what has been done with a worker since it was fresh, deed by deed: producers hand
events over, the request to stop and the state of the daemon change, and the worker makes passes, in
any order.  The daemon may do what it likes while the worker waits for it, and a pass that panics is
a deed like any other.

`History.conservation` accounts for every event that was ever handed over: it was accepted, it was
rejected, it is still waiting, or it was lost with a batch in which a call panicked.
-/

namespace JobHooks

set_option autoImplicit false

/-- What can be done with a worker at rest. -/
inductive Action (σ : Type) where
  /-- Payloads are handed over. -/
  | enqueue (payloads : List Payload)
  /-- The request to stop is given or taken back. -/
  | setStop (stop : Bool)
  /-- Something changes on the side of the daemon. -/
  | adjust (change : σ → σ)
  /-- The worker makes a pass. -/
  | pass

/-- What has been done with a worker, oldest first, and the worker that it led to. -/
structure History (σ : Type) where
  deeds : List Deed := []
  worker : Worker σ

namespace History

variable {σ : Type}

/-- The history of a worker that has not done anything. -/
def fresh (settings : DeliverySettings) (state : σ) : History σ where
  worker := .fresh settings state

/-- The history with one action more. -/
def act (daemon : Daemon σ) (settings : DeliverySettings) (history : History σ) :
    Action σ → History σ
  | .enqueue payloads =>
    { deeds := history.deeds ++ [.enqueued (Event.numbered history.worker.arrivals payloads)]
      worker := history.worker.enqueue payloads }
  | .setStop stop =>
    { deeds := history.deeds ++ [.stopSet stop], worker := history.worker.setStop stop }
  | .adjust change =>
    { deeds := history.deeds ++ [.adjusted]
      worker := { history.worker with daemon := change history.worker.daemon } }
  | .pass =>
    let progress := history.worker.pass daemon settings
    { deeds := history.deeds ++ [.passed progress.outcome progress.trace]
      worker := progress.worker }

/-- The history that actions lead to, one after the other. -/
def run (daemon : Daemon σ) (settings : DeliverySettings) (actions : List (Action σ))
    (history : History σ) : History σ :=
  actions.foldl (act daemon settings) history

/-- Everything that was ever handed over, in the order of time. -/
def handedOver (history : History σ) : List Event := history.deeds.flatMap Deed.arrived

/-- Every call that was ever made, in the order of time. -/
def attempts (history : History σ) : List Attempt := history.deeds.flatMap Deed.attempts

/-- The events that were accepted. -/
def accepted (history : History σ) : List Event :=
  Attempts.withVerdict .accepted history.attempts

/-- The events that were rejected. -/
def rejected (history : History σ) : List Event :=
  Attempts.withVerdict .rejected history.attempts

/-- The events that are done with, in the order in which they were. -/
def settled (history : History σ) : List Event := Attempts.settled history.attempts

/-- The events that were lost with panics. -/
def lost (history : History σ) : List Event := history.deeds.flatMap Deed.lost

/-- What is waiting. -/
def waiting (history : History σ) : List Event := history.worker.queue.toList

/-- No poll and no call has panicked. -/
def Unbroken (history : History σ) : Prop := ∀ deed ∈ history.deeds, deed.broken = false

variable {daemon : Daemon σ} {settings : DeliverySettings} {history : History σ}

/-- What holds in the beginning and is kept by every action of a run holds at its end. -/
theorem run_induction {motive : History σ → Prop} {actions : List (Action σ)}
    (start : motive history)
    (step : ∀ history, ∀ action ∈ actions, motive history →
      motive (act daemon settings history action)) :
    motive (run daemon settings actions history) := by
  induction actions generalizing history with
  | nil => exact start
  | cons action actions ih =>
    exact ih (step history action List.mem_cons_self start)
      fun history other member => step history other (List.mem_cons_of_mem _ member)

/-- **Every action adds one deed, and there is a ledger for it.** -/
theorem exists_ledger (daemon : Daemon σ) (settings : DeliverySettings) (history : History σ)
    (action : Action σ) :
    ∃ deed early kept done finish,
      (act daemon settings history action).deeds = history.deeds ++ [deed]
        ∧ Worker.Ledger history.worker deed (act daemon settings history action).worker early kept
            done finish := by
  cases action with
  | enqueue payloads => exact ⟨_, _, _, _, _, rfl, .of_enqueue history.worker payloads⟩
  | setStop stop => exact ⟨_, _, _, _, _, rfl, .of_setStop history.worker stop⟩
  | adjust change => exact ⟨_, _, _, _, _, rfl, .of_adjust history.worker _⟩
  | pass =>
    obtain ⟨early, kept, done, finish, passed⟩ :=
      Worker.exists_passed daemon settings history.worker
    exact ⟨_, early, kept, done, finish, rfl, passed.toLedger⟩

/-! ## Where every event is -/

/-- Every event that was handed over has a number of its own, and is settled, waiting or lost. -/
structure Balanced (history : History σ) : Prop where
  consecutive : Event.Consecutive 0 history.handedOver
  arrivals_eq : history.worker.arrivals = history.handedOver.length
  perm : history.handedOver.Perm
    (history.settled ++ history.waiting ++ history.lost)
  nothing_lost : history.Unbroken → history.lost = []

theorem balanced_fresh (settings : DeliverySettings) (state : σ) :
    Balanced (fresh settings state) where
  consecutive := Event.consecutive_nil _
  arrivals_eq := rfl
  perm := .refl _
  nothing_lost := fun _ => rfl

section

variable {after : History σ} {deed : Deed} {early kept : List Event} {done : List Attempt}
  {finish : Finish}

/-- What is collected from the deeds grows by what there is of it in the last one. -/
theorem flatMap_of_deeds {α : Type} (part : Deed → List α)
    (deeds : after.deeds = history.deeds ++ [deed]) :
    after.deeds.flatMap part = history.deeds.flatMap part ++ part deed := by
  rw [deeds, List.flatMap_append, List.flatMap_singleton]

theorem handedOver_of_deeds (deeds : after.deeds = history.deeds ++ [deed]) :
    after.handedOver = history.handedOver ++ deed.arrived :=
  flatMap_of_deeds Deed.arrived deeds

theorem attempts_of_deeds (deeds : after.deeds = history.deeds ++ [deed]) :
    after.attempts = history.attempts ++ deed.attempts :=
  flatMap_of_deeds Deed.attempts deeds

theorem lost_of_deeds (deeds : after.deeds = history.deeds ++ [deed]) :
    after.lost = history.lost ++ deed.lost :=
  flatMap_of_deeds Deed.lost deeds

/-- A history is unbroken as long as its deeds are. -/
theorem unbroken_of_deeds (deeds : after.deeds = history.deeds ++ [deed]) :
    after.Unbroken ↔ history.Unbroken ∧ deed.broken = false := by
  rw [Unbroken, deeds, List.forall_mem_append, List.forall_mem_singleton]
  rfl

/-- The events settled by a deed join those that were settled before. -/
theorem settled_of_ledger (deeds : after.deeds = history.deeds ++ [deed])
    (ledger : Worker.Ledger history.worker deed after.worker early kept done finish) :
    after.settled = history.settled ++ done.map Attempt.event := by
  rw [settled, attempts_of_deeds deeds, Attempts.settled_append, ledger.settled_eq]
  rfl

/-- What arrives in the course of a deed is numbered behind what was handed over before. -/
theorem Balanced.consecutive_arrived (balanced : history.Balanced)
    (ledger : Worker.Ledger history.worker deed after.worker early kept done finish) :
    Event.Consecutive 0 (history.handedOver ++ deed.arrived) := by
  have later := ledger.consecutive
  rw [balanced.arrivals_eq, ← Nat.zero_add history.handedOver.length] at later
  exact balanced.consecutive.append later

/-- No batch has an event twice. -/
theorem Balanced.nodup_taken (balanced : history.Balanced)
    (ledger : Worker.Ledger history.worker deed after.worker early kept done finish) :
    deed.taken.Nodup := by
  have unique := (balanced.consecutive_arrived ledger).nodup
  rw [List.nodup_iff_count_le_one] at unique ⊢
  intro event
  have unique := unique event
  have before := balanced.perm.count_eq event
  have split := congrArg (List.count event) ledger.waiting_eq
  simp only [ledger.arrived_eq, waiting, List.count_append] at unique before split
  omega

/-- **A deed keeps the balance.** -/
theorem Balanced.advance (balanced : history.Balanced)
    (deeds : after.deeds = history.deeds ++ [deed])
    (ledger : Worker.Ledger history.worker deed after.worker early kept done finish) :
    after.Balanced := by
  have lost : deed.lost = finish.lost := ledger.lost_eq (balanced.nodup_taken ledger)
  refine ⟨?_, ?_, ?_, ?_⟩
  · rw [handedOver_of_deeds deeds]
    exact balanced.consecutive_arrived ledger
  · rw [ledger.arrivals_eq, balanced.arrivals_eq, handedOver_of_deeds deeds, List.length_append]
  · rw [List.perm_iff_count]
    intro event
    have before := balanced.perm.count_eq event
    have split := congrArg (List.count event) ledger.waiting_split
    rw [handedOver_of_deeds deeds, settled_of_ledger deeds ledger, lost_of_deeds deeds, lost,
      ledger.arrived_eq, waiting, ledger.queue_eq]
    simp only [waiting, List.count_append] at split before ⊢
    omega
  · intro unbroken
    obtain ⟨earlier, now⟩ := (unbroken_of_deeds deeds).mp unbroken
    rw [lost_of_deeds deeds, lost, balanced.nothing_lost earlier, ledger.nothing_lost now]
    rfl

end

theorem balanced_run (daemon : Daemon σ) (settings : DeliverySettings) (state : σ)
    (actions : List (Action σ)) : (run daemon settings actions (fresh settings state)).Balanced :=
  run_induction (balanced_fresh settings state) fun history action _ balanced => by
    obtain ⟨deed, early, kept, done, finish, deeds, ledger⟩ :=
      exists_ledger daemon settings history action
    exact balanced.advance deeds ledger

/-- What was handed over remains so. -/
theorem handedOver_prefix (daemon : Daemon σ) (settings : DeliverySettings)
    (actions : List (Action σ)) (history : History σ) :
    history.handedOver <+: (run daemon settings actions history).handedOver := by
  refine run_induction (motive := fun after => history.handedOver <+: after.handedOver)
    List.prefix_rfl ?_
  intro after action _ earlier
  obtain ⟨deed, _, _, _, _, deeds, -⟩ := exists_ledger daemon settings after action
  rw [handedOver_of_deeds deeds]
  exact earlier.trans (List.prefix_append _ _)

/-- The totals count the events that were accepted and rejected. -/
theorem counted_run (daemon : Daemon σ) (settings : DeliverySettings) (state : σ)
    (actions : List (Action σ)) :
    let history := run daemon settings actions (fresh settings state)
    history.worker.stats.sent = UInt64.ofNat history.accepted.length
      ∧ history.worker.stats.rejected = UInt64.ofNat history.rejected.length := by
  refine run_induction (motive := fun history =>
    history.worker.stats.sent = UInt64.ofNat history.accepted.length
      ∧ history.worker.stats.rejected = UInt64.ofNat history.rejected.length) ⟨rfl, rfl⟩ ?_
  intro history action _ ⟨sent, rejected⟩
  obtain ⟨deed, early, kept, done, finish, deeds, ledger⟩ :=
    exists_ledger daemon settings history action
  obtain ⟨moreSent, moreRejected⟩ := ledger.counted
  rw [moreSent, moreRejected, sent, rejected]
  simp only [accepted, History.rejected, attempts_of_deeds deeds, Attempts.withVerdict_append,
    List.length_append, UInt64.ofNat_add, and_self]

/-- **Every event that was ever handed over is accounted for**, and none is counted twice: it was
accepted, it was rejected, it is waiting, or it was lost when a call for it, or for an event before
it in its batch, panicked.  Where nothing panics, nothing is lost. -/
theorem conservation (daemon : Daemon σ) (settings : DeliverySettings) (state : σ)
    (actions : List (Action σ)) :
    let history := run daemon settings actions (fresh settings state)
    (history.handedOver : Multiset Event)
        = history.accepted + history.rejected + history.waiting + history.lost
      ∧ history.handedOver.Nodup
      ∧ (history.Unbroken → (history.handedOver : Multiset Event)
          = history.accepted + history.rejected + history.waiting) := by
  intro history
  have balanced : history.Balanced := balanced_run daemon settings state actions
  have whole : (history.handedOver : Multiset Event)
      = history.accepted + history.rejected + history.waiting + history.lost := by
    have settled : (history.settled : Multiset Event) = history.accepted + history.rejected :=
      Multiset.coe_eq_coe.mpr (Attempts.settled_perm history.attempts)
    calc (history.handedOver : Multiset Event)
        = ((history.settled ++ history.waiting ++ history.lost : List Event) : Multiset Event) :=
          Multiset.coe_eq_coe.mpr balanced.perm
      _ = history.settled + history.waiting + history.lost := rfl
      _ = history.accepted + history.rejected + history.waiting + history.lost := by rw [settled]
  refine ⟨whole, balanced.consecutive.nodup, fun unbroken => ?_⟩
  rw [whole, balanced.nothing_lost unbroken]
  exact Multiset.add_zero _

end History

end JobHooks
