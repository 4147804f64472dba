import JobHooks.Proofs.History

/-!
# The order of delivery

Where nothing panics, the settled events in the order in which they were settled, followed by what
is waiting, are all the events that were handed over.  They are in the order in which they arrived
but for one kind of exception: when a batch is put off, what arrived during its calls goes before
the part of it that is put off.

`History.order_of_delivery` says that nothing else changes the order of two events: a later one
stands before an earlier one exactly when a deed put the earlier one off while the later one arrived
during its calls, and for any two events at most one deed does so.
-/

namespace JobHooks

set_option autoImplicit false

/-! ## Which of two comes first -/

/-- One event stands somewhere before another. -/
def Before (first second : Event) (events : List Event) : Prop :=
  [first, second].Sublist events

namespace Before

variable {first second : Event} {events earlier later : List Event}

theorem mem_left (before : Before first second events) : first ∈ events :=
  before.subset List.mem_cons_self

theorem mem_right (before : Before first second events) : second ∈ events :=
  before.subset (List.mem_cons_of_mem _ List.mem_cons_self)

theorem not_nil : ¬ Before first second [] := fun before => List.not_mem_nil before.mem_left

theorem cons_iff {event : Event} :
    Before first second (event :: events)
      ↔ Before first second events ∨ first = event ∧ second ∈ events := by
  rw [Before, List.sublist_cons_iff]
  constructor
  · rintro (inside | ⟨rest, split, inside⟩)
    · exact .inl inside
    · obtain ⟨rfl, rfl⟩ := List.cons.inj split
      exact .inr ⟨rfl, List.singleton_sublist.mp inside⟩
  · rintro (inside | ⟨rfl, member⟩)
    · exact .inl inside
    · exact .inr ⟨_, rfl, List.singleton_sublist.mpr member⟩

/-- Of two events in a row of two parts, the first one stands before the second one within a part,
or they are in different parts. -/
theorem append_iff :
    Before first second (earlier ++ later)
      ↔ Before first second earlier ∨ Before first second later
        ∨ first ∈ earlier ∧ second ∈ later := by
  induction earlier with
  | nil => simp only [List.nil_append, not_nil, List.not_mem_nil, false_and, false_or, or_false]
  | cons event earlier ih =>
    simp only [List.cons_append, cons_iff, ih, List.mem_append, List.mem_cons]
    grind

/-- Of two different events in a row, one stands before the other. -/
theorem total (different : first ≠ second) (left : first ∈ events) (right : second ∈ events) :
    Before first second events ∨ Before second first events := by
  induction events with
  | nil => cases left
  | cons event events ih =>
    rw [cons_iff, cons_iff]
    rcases List.mem_cons.mp left with rfl | leftLater
    · exact .inl (.inr ⟨rfl, List.mem_of_ne_of_mem different.symm right⟩)
    · rcases List.mem_cons.mp right with rfl | rightLater
      · exact .inr (.inr ⟨rfl, leftLater⟩)
      · exact (ih leftLater rightLater).imp .inl .inl

/-- Two events are in the same order without a part that has none of them. -/
theorem skip_iff {middle : List Event} (left : first ∉ middle) (right : second ∉ middle) :
    Before first second (earlier ++ middle ++ later) ↔ Before first second (earlier ++ later) := by
  have nobody : ¬ Before first second middle := fun before => left before.mem_left
  simp only [append_iff, List.mem_append, left, right, nobody, or_false, and_false]

/-- An event that is put in between stands before those behind it. -/
theorem put_iff {middle : List Event} (new : first ∈ middle) (alone : ¬ Before first second middle)
    (old : first ∉ earlier ++ later) :
    Before first second (earlier ++ middle ++ later) ↔ second ∈ later := by
  rw [List.mem_append, not_or] at old
  have front : ¬ Before first second earlier := fun before => old.1 before.mem_left
  have back : ¬ Before first second later := fun before => old.2 before.mem_left
  simp only [append_iff, List.mem_append, old.1, new, front, alone, back, false_and, false_or,
    true_and]

/-- Of two different places in a row, only one is before the other. -/
theorem asymm (before : Before first second events) (nodup : events.Nodup) :
    ¬ Before second first events := by
  induction events with
  | nil => exact absurd before not_nil
  | cons event events ih =>
    obtain ⟨apart, nodup⟩ := List.nodup_cons.mp nodup
    rintro after
    rcases cons_iff.mp before with inside | ⟨rfl, member⟩
    · rcases cons_iff.mp after with back | ⟨rfl, _⟩
      · exact ih inside nodup back
      · exact apart inside.mem_right
    · rcases cons_iff.mp after with back | ⟨rfl, back⟩
      · exact apart back.mem_right
      · exact apart back

/-- Two places in a row are not of the same event. -/
theorem ne (before : Before first second events) (nodup : events.Nodup) : first ≠ second := by
  rintro rfl
  exact before.asymm nodup before

end Before

/-! ## Who passes whom -/

/-- What arrives during the calls of a trace arrives in the course of it. -/
theorem Trace.arrived_attempts_subset (trace : Trace) :
    Attempts.arrived (Trace.attempts trace) ⊆ Trace.arrived trace := by
  induction trace with
  | nil => exact List.Subset.refl _
  | cons occurrence trace ih =>
    intro event member
    have rest : Trace.arrived trace ⊆ Trace.arrived (occurrence :: trace) :=
      List.subset_append_right _ _
    cases occurrence with
    | called attempt =>
      have split : event ∈ attempt.meanwhile.arrived
          ++ Attempts.arrived (Trace.attempts trace) := member
      rcases List.mem_append.mp split with here | later
      · exact List.mem_append_left _ here
      · exact rest (ih later)
    | polled timeout meanwhile answer => exact rest (ih member)
    | taken batch => exact rest (ih member)
    | noted notice => exact rest (ih member)
    | paused duration => exact rest (ih member)

namespace Deed

/-- A deed puts an event off, and another one arrives during its calls. -/
def LetsPass (deed : Deed) (newcomer event : Event) : Prop :=
  event ∈ deed.putOff ∧ newcomer ∈ Attempts.arrived deed.attempts

instance (deed : Deed) (newcomer event : Event) : Decidable (deed.LetsPass newcomer event) :=
  inferInstanceAs (Decidable (_ ∧ _))

theorem arrived_attempts_subset (deed : Deed) : Attempts.arrived deed.attempts ⊆ deed.arrived := by
  cases deed with
  | passed outcome trace => exact Trace.arrived_attempts_subset trace
  | enqueued events => exact List.nil_subset _
  | stopSet stop => exact List.nil_subset _
  | adjusted => exact List.nil_subset _

end Deed

namespace History

variable {σ : Type} {history after : History σ} {deed : Deed} {early kept : List Event}
  {done : List Attempt} {finish : Finish} {first second : Event}

/-- The events that are settled, in the order in which they were, and those that are waiting. -/
def line (history : History σ) : List Event := history.settled ++ history.waiting

/-- Whoever passed another event was handed over before. -/
theorem mem_handedOver_of_letsPass (member : deed ∈ history.deeds)
    (passes : deed.LetsPass second first) : second ∈ history.handedOver :=
  List.mem_flatMap.mpr ⟨deed, member, deed.arrived_attempts_subset passes.2⟩

/-- Two events have changed their order exactly when a deed let the later one pass, and at most one
deed did. -/
structure InLine (history : History σ) : Prop where
  before_iff : ∀ {first second}, Before first second history.handedOver →
    (Before second first history.line ↔ ∃ deed ∈ history.deeds, deed.LetsPass second first)
  once : ∀ first second, history.deeds.countP (·.LetsPass second first) ≤ 1

theorem inLine_fresh (settings : DeliverySettings) (state : σ) :
    InLine (fresh settings state) where
  before_iff := fun before => absurd before Before.not_nil
  once := fun _ _ => Nat.zero_le _

/-- Where nothing is lost, the line has the events that were handed over. -/
theorem Balanced.perm_line (balanced : history.Balanced) (unbroken : history.Unbroken) :
    history.line.Perm history.handedOver := by
  have perm := balanced.perm
  rw [balanced.nothing_lost unbroken, List.append_nil] at perm
  exact perm.symm

/-- How a deed changes the line: what arrives early joins at its end, and what arrives during the
calls goes before what is put off. -/
theorem line_of_ledger (deeds : after.deeds = history.deeds ++ [deed])
    (ledger : Worker.Ledger history.worker deed after.worker early kept done finish)
    (nothing : finish.lost = []) :
    ∃ front, history.line ++ early = front ++ finish.returned
      ∧ after.line = front ++ Attempts.arrived deed.attempts ++ finish.returned := by
  refine ⟨history.settled ++ done.map Attempt.event ++ kept, ?_, ?_⟩
  · rw [line, waiting, List.append_assoc, ledger.waiting_order nothing]
    simp only [List.append_assoc]
  · rw [line, settled_of_ledger deeds ledger, waiting, ledger.queue_eq]
    simp only [List.append_assoc]

/-- Everything that has been handed over after a deed, in three parts. -/
theorem handedOver_of_ledger (deeds : after.deeds = history.deeds ++ [deed])
    (ledger : Worker.Ledger history.worker deed after.worker early kept done finish) :
    after.handedOver = history.handedOver ++ early ++ Attempts.arrived deed.attempts := by
  rw [handedOver_of_deeds deeds, ledger.arrived_eq, List.append_assoc]

/-- What arrives during the calls of a deed had not been handed over before. -/
theorem Balanced.not_mem_of_arrived (balanced : after.Balanced)
    (deeds : after.deeds = history.deeds ++ [deed])
    (ledger : Worker.Ledger history.worker deed after.worker early kept done finish)
    {event : Event} (new : event ∈ Attempts.arrived deed.attempts) :
    event ∉ history.handedOver ++ early := by
  have nodup := balanced.consecutive.nodup
  rw [handedOver_of_ledger deeds ledger] at nodup
  exact fun old => (List.nodup_append.mp nodup).2.2 event old event new rfl

/-- An event that is new to a deed has passed nobody before. -/
theorem Balanced.not_letsPass_of_arrived (balanced : after.Balanced)
    (deeds : after.deeds = history.deeds ++ [deed])
    (ledger : Worker.Ledger history.worker deed after.worker early kept done finish)
    (new : second ∈ Attempts.arrived deed.attempts) {earlier : Deed}
    (member : earlier ∈ history.deeds) : ¬ earlier.LetsPass second first :=
  fun passes => balanced.not_mem_of_arrived deeds ledger new
    (List.mem_append_left _ (mem_handedOver_of_letsPass member passes))

/-- An event has been passed before a deed or in the course of it. -/
theorem exists_letsPass_iff (deeds : after.deeds = history.deeds ++ [deed])
    (ledger : Worker.Ledger history.worker deed after.worker early kept done finish) :
    (∃ deed ∈ after.deeds, deed.LetsPass second first)
      ↔ (∃ deed ∈ history.deeds, deed.LetsPass second first)
        ∨ first ∈ finish.returned ∧ second ∈ Attempts.arrived deed.attempts := by
  rw [← ledger.putOff_eq, deeds]
  simp only [List.mem_append, List.mem_singleton, or_and_right, exists_or, exists_eq_left]
  rfl

/-- What arrives before a batch is taken passes nobody. -/
theorem InLine.before_iff_early (inLine : history.InLine)
    (same : ∀ event, event ∈ history.line ↔ event ∈ history.handedOver)
    (nodup : (history.handedOver ++ early).Nodup)
    (before : Before first second (history.handedOver ++ early)) :
    Before second first (history.line ++ early)
      ↔ ∃ deed ∈ history.deeds, deed.LetsPass second first := by
  have apart : ∀ event ∈ early, event ∉ history.handedOver :=
    fun event here there => (List.nodup_append.mp nodup).2.2 event there event here rfl
  have late : ¬ Before second first early :=
    fun back => before.asymm nodup (Before.append_iff.mpr (.inr (.inl back)))
  rw [Before.append_iff, same]
  rcases Before.append_iff.mp before with inside | behind
  · rw [← inLine.before_iff inside]
    refine ⟨?_, .inl⟩
    rintro (changed | changed | ⟨_, new⟩)
    · exact changed
    · exact absurd changed late
    · exact absurd inside.mem_left (apart first new)
  · have new : second ∉ history.handedOver := apart second (behind.elim Before.mem_right And.right)
    refine iff_of_false ?_ ?_
    · rintro (changed | changed | ⟨known, _⟩)
      · exact new ((same second).mp changed.mem_left)
      · exact late changed
      · exact new known
    · rintro ⟨deed, member, passes⟩
      exact new (mem_handedOver_of_letsPass member passes)

/-- A deed changes the order of the pairs that it lets pass, and of no others. -/
theorem InLine.before_iff_advance (inLine : history.InLine) (balanced : history.Balanced)
    (later : after.Balanced) (unbroken : after.Unbroken)
    (deeds : after.deeds = history.deeds ++ [deed])
    (ledger : Worker.Ledger history.worker deed after.worker early kept done finish)
    (before : Before first second after.handedOver) :
    Before second first after.line ↔ ∃ deed ∈ after.deeds, deed.LetsPass second first := by
  obtain ⟨earlier, now⟩ := (unbroken_of_deeds deeds).mp unbroken
  obtain ⟨front, joined, line⟩ := line_of_ledger deeds ledger (ledger.nothing_lost now)
  have same : ∀ event, event ∈ history.line ↔ event ∈ history.handedOver :=
    fun event => (balanced.perm_line earlier).mem_iff
  have fresh : ∀ event ∈ Attempts.arrived deed.attempts, event ∉ history.handedOver ++ early :=
    fun event new => later.not_mem_of_arrived deeds ledger new
  have nodup := later.consecutive.nodup
  rw [handedOver_of_ledger deeds ledger] at nodup before
  rw [line, exists_letsPass_iff deeds ledger]
  -- A newcomer passes exactly what is put off; two events that are no newcomers keep their order.
  rcases Before.append_iff.mp before with inside | behind
  · have left : first ∉ Attempts.arrived deed.attempts := fun new => fresh _ new inside.mem_left
    have right : second ∉ Attempts.arrived deed.attempts := fun new => fresh _ new inside.mem_right
    rw [Before.skip_iff right left, ← joined,
      inLine.before_iff_early same (List.nodup_append.mp nodup).1 inside]
    exact (or_iff_left fun passes => right passes.2).symm
  · have new : second ∈ Attempts.arrived deed.attempts := behind.elim Before.mem_right And.right
    have alone : ¬ Before second first (Attempts.arrived deed.attempts) :=
      fun back => before.asymm nodup (Before.append_iff.mpr (.inr (.inl back)))
    have absent : second ∉ front ++ finish.returned := by
      rw [← joined, List.mem_append, same, ← List.mem_append]
      exact fresh second new
    have nobody : ¬ ∃ deed ∈ history.deeds, deed.LetsPass second first :=
      fun ⟨_, member, passes⟩ => later.not_letsPass_of_arrived deeds ledger new member passes
    rw [Before.put_iff new alone absent, or_iff_right nobody]
    exact (and_iff_left new).symm

/-- **A deed keeps the order**, but for what it puts off. -/
theorem InLine.advance (inLine : history.InLine) (balanced : history.Balanced)
    (later : after.Balanced) (unbroken : after.Unbroken)
    (deeds : after.deeds = history.deeds ++ [deed])
    (ledger : Worker.Ledger history.worker deed after.worker early kept done finish) :
    after.InLine where
  before_iff := inLine.before_iff_advance balanced later unbroken deeds ledger
  once := by
    intro first second
    rw [deeds, List.countP_append, List.countP_singleton]
    by_cases passes : deed.LetsPass second first
    · have before : history.deeds.countP (·.LetsPass second first) = 0 :=
        List.countP_eq_zero.mpr fun earlier member passed =>
          later.not_letsPass_of_arrived deeds ledger passes.2 member (of_decide_eq_true passed)
      rw [before, if_pos (decide_eq_true passes)]
    · rw [if_neg fun passed => passes (of_decide_eq_true passed)]
      exact inLine.once first second

theorem inLine_run (daemon : Daemon σ) (settings : DeliverySettings) (state : σ)
    (actions : List (Action σ)) (unbroken : (run daemon settings actions
      (fresh settings state)).Unbroken) :
    (run daemon settings actions (fresh settings state)).InLine := by
  have start : (fresh settings state).Balanced ∧ ((fresh settings state).Unbroken →
      (fresh settings state).InLine) :=
    ⟨balanced_fresh settings state, fun _ => inLine_fresh settings state⟩
  refine (run_induction (motive := fun history => history.Balanced
    ∧ (history.Unbroken → history.InLine)) start ?_).2 unbroken
  intro history action _ ⟨balanced, inLine⟩
  obtain ⟨deed, early, kept, done, finish, deeds, ledger⟩ :=
    exists_ledger daemon settings history action
  have later := balanced.advance deeds ledger
  refine ⟨later, fun unbroken => ?_⟩
  have earlier := ((unbroken_of_deeds deeds).mp unbroken).1
  exact (inLine earlier).advance balanced later unbroken deeds ledger

/-! ## The order of two events -/

/-- Who has been passed by nobody stands in the line before those who came later. -/
theorem InLine.before_line (inLine : history.InLine) (balanced : history.Balanced)
    (unbroken : history.Unbroken) (before : Before first second history.handedOver)
    (nobody : ¬ ∃ deed ∈ history.deeds, deed.LetsPass second first) :
    Before first second history.line := by
  have perm := balanced.perm_line unbroken
  have either : Before first second history.line ∨ Before second first history.line :=
    Before.total (before.ne balanced.consecutive.nodup) (perm.mem_iff.mpr before.mem_left)
      (perm.mem_iff.mpr before.mem_right)
  exact either.resolve_right fun back => nobody ((inLine.before_iff before).mp back)

/-- Where nobody passes anybody, the line is what was handed over. -/
theorem InLine.line_eq (inLine : history.InLine) (balanced : history.Balanced)
    (unbroken : history.Unbroken)
    (nobody : ∀ deed ∈ history.deeds, ∀ first second, ¬ deed.LetsPass second first) :
    history.line = history.handedOver := by
  have perm := balanced.perm_line unbroken
  have arrivals := balanced.consecutive.pairwise
  have ordered : history.line.Pairwise (·.arrival < ·.arrival) := by
    refine List.pairwise_iff_forall_sublist.mpr fun {first second} before => ?_
    have different : first ≠ second :=
      Before.ne before (perm.nodup_iff.mpr balanced.consecutive.nodup)
    have here : first ∈ history.handedOver := perm.mem_iff.mp (Before.mem_left before)
    have there : second ∈ history.handedOver := perm.mem_iff.mp (Before.mem_right before)
    rcases Before.total different here there with same | changed
    · exact List.pairwise_iff_forall_sublist.mp arrivals same
    · obtain ⟨deed, member, passes⟩ := (inLine.before_iff changed).mp before
      exact absurd passes (nobody deed member _ _)
  exact perm.eq_of_pairwise (fun _ _ _ _ less more => absurd less (Nat.lt_asymm more)) ordered
    arrivals

/-- **The order of delivery**, where nothing panics.  Take two events, the first handed over before
the second.  As long as neither is settled, the second one is waiting before the first exactly when
some deed put the first one off while the second one arrived during its calls; the second one is
settled before the first only if some deed did so; and no two deeds did so.  Where no deed lets an
event pass another, the events are settled in the order in which they were handed over. -/
theorem order_of_delivery (daemon : Daemon σ) (settings : DeliverySettings) (state : σ)
    (actions : List (Action σ))
    (unbroken : (run daemon settings actions (fresh settings state)).Unbroken) :
    let history := run daemon settings actions (fresh settings state)
    (∀ first second, Before first second history.handedOver →
      let passed := ∃ deed ∈ history.deeds, deed.LetsPass second first
      (first ∉ history.settled → second ∉ history.settled →
          (Before second first history.waiting ↔ passed))
        ∧ (second ∈ history.settled → Before first second history.settled ∨ passed)
        ∧ history.deeds.countP (·.LetsPass second first) ≤ 1)
      ∧ ((∀ deed ∈ history.deeds, ∀ first second, ¬ deed.LetsPass second first) →
        history.settled ++ history.waiting = history.handedOver) := by
  intro history
  have balanced : history.Balanced := balanced_run daemon settings state actions
  have inLine : history.InLine := inLine_run daemon settings state actions unbroken
  refine ⟨fun first second before => ⟨?_, ?_, inLine.once first second⟩,
    inLine.line_eq balanced unbroken⟩
  · intro firstOpen secondOpen
    rw [← inLine.before_iff before, line, Before.append_iff]
    refine ⟨fun back => .inr (.inl back), ?_⟩
    rintro (settled | waiting | ⟨settled, _⟩)
    · exact absurd settled.mem_left secondOpen
    · exact waiting
    · exact absurd settled secondOpen
  · intro done
    by_cases passed : ∃ deed ∈ history.deeds, deed.LetsPass second first
    · exact .inr passed
    · have apart := (List.nodup_append.mp
        ((balanced.perm_line unbroken).nodup_iff.mpr balanced.consecutive.nodup)).2.2
      rcases Before.append_iff.mp (inLine.before_line balanced unbroken before passed) with
        settled | waiting | ⟨_, waiting⟩
      · exact .inl settled
      · exact absurd rfl (apart second done second waiting.mem_right)
      · exact absurd rfl (apart second done second waiting)

/-- What is handed over during a call passes the events that the daemon cannot be reached for. -/
theorem order_of_delivery_falling :
    let actions : List (Action Nat) := [.enqueue [.start [], .start []], .pass]
    let history := run Worker.falling {} actions (fresh {} 0)
    history.Unbroken ∧ Before ⟨.start [], 1⟩ ⟨.finish [], 2⟩ history.handedOver
      ∧ Before ⟨.finish [], 2⟩ ⟨.start [], 1⟩ history.waiting := by
  intro actions history
  have unbroken : history.Unbroken := by unfold Unbroken; decide
  have before : Before ⟨.start [], 1⟩ ⟨.finish [], 2⟩ history.handedOver := by
    unfold Before; decide
  obtain ⟨waits, _, _⟩ := (order_of_delivery Worker.falling {} 0 actions unbroken).1 _ _ before
  exact ⟨unbroken, before, (waits (by decide) (by decide)).mpr (by decide)⟩

end History

end JobHooks
