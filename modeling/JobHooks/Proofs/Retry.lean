import JobHooks.Proofs.Order

/-!
# Trying again

The daemon may be called for an event more than once, but only while it cannot be reached.  The
verdicts for one event, in the order of time, are a number of times `unavailable`, and then at most
one other: the event is accepted, it is rejected, or a call for it panics.

What carries this over a history is `History.Tried`: whatever is waiting has only ever been found
unavailable, and whatever was lost is not tried again.  `History.tried_until_answered` draws the
conclusions for single events.
-/

namespace JobHooks

set_option autoImplicit false

/-! ## The verdicts for one event -/

namespace Attempts

/-- The verdicts for an event, in the order of time. -/
def verdicts (event : Event) (attempts : List Attempt) : List Verdict :=
  (attempts.filter (·.event = event)).map Attempt.verdict

variable {event : Event} {attempts : List Attempt}

@[simp] theorem verdicts_append (event : Event) (earlier later : List Attempt) :
    verdicts event (earlier ++ later) = verdicts event earlier ++ verdicts event later := by
  simp only [verdicts, List.filter_append, List.map_append]

theorem mem_verdicts {verdict : Verdict} :
    verdict ∈ verdicts event attempts
      ↔ ∃ attempt ∈ attempts, attempt.event = event ∧ attempt.verdict = verdict := by
  simp only [verdicts, List.mem_map, List.mem_filter, decide_eq_true_eq, and_assoc]

/-- An event that the daemon is not called for has no verdicts. -/
theorem verdicts_eq_nil (never : event ∉ attempts.map Attempt.event) :
    verdicts event attempts = [] := by
  rw [verdicts, List.map_eq_nil_iff, List.filter_eq_nil_iff]
  intro attempt member same
  exact never (List.mem_map.mpr ⟨attempt, member, of_decide_eq_true same⟩)

/-- An event that the daemon is called for once has one verdict. -/
theorem verdicts_eq_singleton (once : (attempts.map Attempt.event).Nodup) {attempt : Attempt}
    (member : attempt ∈ attempts) : verdicts attempt.event attempts = [attempt.verdict] := by
  obtain ⟨before, after, rfl⟩ := List.append_of_mem member
  rw [List.map_append, List.map_cons, List.nodup_append] at once
  obtain ⟨_, behind, apart⟩ := once
  have earlier : attempt.event ∉ before.map Attempt.event :=
    fun here => apart _ here _ List.mem_cons_self rfl
  have later : attempt.event ∉ after.map Attempt.event := (List.nodup_cons.mp behind).1
  have here : verdicts attempt.event (attempt :: after)
      = attempt.verdict :: verdicts attempt.event after := by
    simp [verdicts]
  rw [verdicts_append, verdicts_eq_nil earlier, here, verdicts_eq_nil later, List.nil_append]

end Attempts

/-- Verdicts of which only the last one may be another than `unavailable`. -/
def Verdict.Ends (verdicts : List Verdict) : Prop :=
  ∃ (count : Nat) (last : Option Verdict), last ≠ some .unavailable
    ∧ verdicts = List.replicate count .unavailable ++ last.toList

namespace Verdict.Ends

variable {verdicts : List Verdict}

theorem of_forall (missed : ∀ verdict ∈ verdicts, verdict = .unavailable) : Ends verdicts := by
  refine ⟨verdicts.length, none, nofun, ?_⟩
  rw [Option.toList_none, List.append_nil]
  exact List.eq_replicate_iff.mpr ⟨rfl, missed⟩

/-- One verdict more, where all before it are `unavailable`. -/
theorem concat (missed : ∀ verdict ∈ verdicts, verdict = .unavailable) (last : Verdict) :
    Ends (verdicts ++ [last]) := by
  by_cases again : last = .unavailable
  · refine of_forall fun verdict member => ?_
    rcases List.mem_append.mp member with earlier | here
    · exact missed verdict earlier
    · exact (List.mem_singleton.mp here).trans again
  · refine ⟨verdicts.length, some last, fun same => again (Option.some.inj same), ?_⟩
    rw [← List.eq_replicate_iff.mpr ⟨rfl, missed⟩]
    rfl

/-- Behind another verdict than `unavailable` there is none. -/
theorem eq_nil {before after : List Verdict} {last : Verdict}
    (ends : Ends (before ++ last :: after)) (final : last ≠ .unavailable) : after = [] := by
  obtain ⟨count, other, _, split⟩ := ends
  rcases List.eq_nil_or_concat' after with none | ⟨front, verdict, rfl⟩
  · exact none
  · -- The last verdict is dropped from both sides; what is left is `unavailable` throughout.
    have dropped := congrArg List.dropLast split
    have left : (before ++ last :: (front ++ [verdict])).dropLast = before ++ last :: front := by
      rw [← List.cons_append, ← List.append_assoc, List.dropLast_concat]
    have inside : last ∈ (List.replicate count Verdict.unavailable ++ other.toList).dropLast := by
      rw [← dropped, left]
      exact List.mem_append_right _ List.mem_cons_self
    have all : ∀ verdict ∈ (List.replicate count Verdict.unavailable ++ other.toList).dropLast,
        verdict = .unavailable := by
      intro verdict member
      cases other with
      | none =>
        rw [Option.toList_none, List.append_nil] at member
        exact List.eq_of_mem_replicate (List.dropLast_subset _ member)
      | some other =>
        rw [Option.toList_some, List.dropLast_concat] at member
        exact List.eq_of_mem_replicate member
    exact absurd (all last inside) final

end Verdict.Ends

/-! ## The calls of a deed -/

/-- A batch ends with a call for the first of the events that are not settled, if there is one. -/
theorem Finish.attempts_prefix (finish : Finish) :
    finish.attempts.map Attempt.event <+: finish.unsettled := by
  cases finish with
  | drained => exact List.prefix_rfl
  | deferred last left => exact ⟨left, rfl⟩
  | broken last panic left => exact ⟨left, rfl⟩

namespace Worker.Ledger

variable {σ : Type} {before after : Worker σ} {deed : Deed} {early kept : List Event}
  {done : List Attempt} {finish : Finish}

/-- The calls of a deed are for the first events of its batch. -/
theorem attempts_prefix (ledger : Ledger before deed after early kept done finish) :
    deed.attempts.map Attempt.event <+: deed.taken := by
  rw [ledger.attempts_eq, List.map_append, ledger.batch_eq]
  exact (List.prefix_append_right_inj _).mpr finish.attempts_prefix

/-- Who is called for was waiting before, or arrived before the batch was taken. -/
theorem mem_of_attempt (ledger : Ledger before deed after early kept done finish)
    {attempt : Attempt} (member : attempt ∈ deed.attempts) :
    attempt.event ∈ before.queue.toList ++ early := by
  rw [ledger.waiting_eq]
  exact List.mem_append_left _
    (ledger.attempts_prefix.subset (List.mem_map_of_mem member))

/-- Who is waiting after a deed was waiting before, arrived before the batch was taken, or arrived
during the calls. -/
theorem mem_of_waiting (ledger : Ledger before deed after early kept done finish) {event : Event}
    (member : event ∈ after.queue.toList) :
    event ∈ before.queue.toList ++ early ∨ event ∈ Attempts.arrived deed.attempts := by
  rw [ledger.queue_eq, List.mem_append, List.mem_append] at member
  rw [ledger.waiting_eq, ledger.batch_eq, finish.unsettled_eq]
  rcases member with (stayed | arrived) | returned
  · exact .inl (List.mem_append_right _ stayed)
  · exact .inr arrived
  · exact .inl (List.mem_append_left _ (List.mem_append_right _ (List.mem_append_left _ returned)))

end Worker.Ledger

/-! ## The calls of a history -/

namespace History

variable {σ : Type} {history after : History σ} {deed : Deed} {early kept : List Event}
  {done : List Attempt} {finish : Finish} {event : Event}

/-- No event is in two of the places where the balance finds it. -/
theorem Balanced.nodup_places (balanced : history.Balanced) :
    (history.settled ++ history.waiting ++ history.lost).Nodup :=
  balanced.perm.nodup_iff.mp balanced.consecutive.nodup

theorem Balanced.not_waiting_of_settled (balanced : history.Balanced)
    (settled : event ∈ history.settled) : event ∉ history.waiting := fun waiting =>
  (List.nodup_append.mp (List.nodup_append.mp balanced.nodup_places).1).2.2
    event settled event waiting rfl

theorem Balanced.not_waiting_of_lost (balanced : history.Balanced)
    (lost : event ∈ history.lost) : event ∉ history.waiting := fun waiting =>
  (List.nodup_append.mp balanced.nodup_places).2.2
    event (List.mem_append_right _ waiting) event lost rfl

/-- What arrives in the course of a deed had not been handed over before. -/
theorem Balanced.not_mem_of_early (balanced : after.Balanced)
    (deeds : after.deeds = history.deeds ++ [deed])
    (ledger : Worker.Ledger history.worker deed after.worker early kept done finish)
    (new : event ∈ early) : event ∉ history.handedOver := by
  have nodup := balanced.consecutive.nodup
  rw [handedOver_of_ledger deeds ledger] at nodup
  exact fun old => (List.nodup_append.mp (List.nodup_append.mp nodup).1).2.2 event old event new rfl

/-- An event was lost with a call that panicked, for it or for an event before it in the same batch,
and the daemon has not been called for it since. -/
def LostWith (history : History σ) (event : Event) : Prop :=
  ∃ (before : List Attempt) (attempt : Attempt) (after : List Attempt),
    history.attempts = before ++ attempt :: after ∧ attempt.verdict = .panicked
      ∧ (∀ later ∈ after, later.event ≠ event)
      ∧ ∃ deed ∈ history.deeds, attempt ∈ deed.attempts
        ∧ (attempt.event = event ∨ Before attempt.event event deed.taken)

/-- Whatever is waiting has only ever been found unavailable, whatever was lost is not tried again,
and no event is tried twice in one pass. -/
structure Tried (history : History σ) : Prop where
  known : ∀ attempt ∈ history.attempts, attempt.event ∈ history.handedOver
  waits : ∀ event ∈ history.waiting, ∀ verdict ∈ Attempts.verdicts event history.attempts,
    verdict = .unavailable
  ends : ∀ event, Verdict.Ends (Attempts.verdicts event history.attempts)
  once : ∀ deed ∈ history.deeds, (deed.attempts.map Attempt.event).Nodup
  gone : ∀ event ∈ history.lost, history.LostWith event

theorem tried_fresh (settings : DeliverySettings) (state : σ) : Tried (fresh settings state) where
  known := fun _ member => absurd member List.not_mem_nil
  waits := fun _ member => absurd member List.not_mem_nil
  ends := fun _ => .of_forall fun _ member => absurd member List.not_mem_nil
  once := fun _ member => absurd member List.not_mem_nil
  gone := fun _ member => absurd member List.not_mem_nil

/-- Who has not been handed over has not been tried. -/
theorem Tried.verdicts_eq_nil (tried : history.Tried) (new : event ∉ history.handedOver) :
    Attempts.verdicts event history.attempts = [] := by
  refine Attempts.verdicts_eq_nil fun member => ?_
  obtain ⟨attempt, made, rfl⟩ := List.mem_map.mp member
  exact new (tried.known attempt made)

section

variable (tried : history.Tried) (later : after.Balanced) (deeds : after.deeds = history.deeds ++ [deed])
  (ledger : Worker.Ledger history.worker deed after.worker early kept done finish)

include tried later deeds ledger

/-- Whatever is waiting or arrives early has only been found unavailable before a deed. -/
theorem Tried.waits_early (here : event ∈ history.waiting ++ early) :
    ∀ verdict ∈ Attempts.verdicts event history.attempts, verdict = .unavailable := by
  rcases List.mem_append.mp here with waiting | new
  · exact tried.waits event waiting
  · rw [tried.verdicts_eq_nil (later.not_mem_of_early deeds ledger new)]
    exact fun _ member => absurd member List.not_mem_nil

/-- Whatever is waiting after a deed has only been found unavailable before it. -/
theorem Tried.waits_before (here : event ∈ after.waiting) :
    ∀ verdict ∈ Attempts.verdicts event history.attempts, verdict = .unavailable := by
  rcases ledger.mem_of_waiting here with old | new
  · exact tried.waits_early later deeds ledger old
  · have unknown : event ∉ history.handedOver := fun old =>
      later.not_mem_of_arrived deeds ledger new (List.mem_append_left _ old)
    rw [tried.verdicts_eq_nil unknown]
    exact fun _ member => absurd member List.not_mem_nil

omit tried in
/-- A call of a deed whose event is waiting after it has found it unavailable: otherwise the event
would be settled or lost. -/
theorem unavailable_of_waiting (lost : deed.lost = finish.lost) {attempt : Attempt}
    (member : attempt ∈ deed.attempts) (here : attempt.event ∈ after.waiting) :
    attempt.verdict = .unavailable := by
  rw [ledger.attempts_eq] at member
  rcases List.mem_append.mp member with settled | ended
  · have gone : attempt.event ∈ after.settled := by
      rw [settled_of_ledger deeds ledger]
      exact List.mem_append_right _ (List.mem_map_of_mem settled)
    exact absurd here (later.not_waiting_of_settled gone)
  · cases finish with
    | drained => cases ended
    | deferred last left =>
      rw [List.mem_singleton.mp ended]
      exact ledger.sound
    | broken last panic left =>
      have gone : attempt.event ∈ after.lost := by
        rw [lost_of_deeds deeds, lost, List.mem_singleton.mp ended]
        exact List.mem_append_right _ List.mem_cons_self
      exact absurd here (later.not_waiting_of_lost gone)

/-- An event that was lost before a deed is not tried in it. -/
theorem Tried.gone_before (balanced : history.Balanced) (gone : event ∈ history.lost) : after.LostWith event := by
  obtain ⟨before, attempt, behind, split, panicked, never, other, member, made, place⟩ :=
    tried.gone event gone
  refine ⟨before, attempt, behind ++ deed.attempts, ?_, panicked, ?_, other, ?_, made, place⟩
  · rw [attempts_of_deeds deeds, split, List.append_assoc, List.cons_append]
  · intro call made
    rcases List.mem_append.mp made with before | now
    · exact never call before
    · rintro rfl
      rcases List.mem_append.mp (ledger.mem_of_attempt now) with waiting | new
      · exact balanced.not_waiting_of_lost gone waiting
      · have known : call.event ∈ history.handedOver :=
          balanced.perm.mem_iff.mpr (List.mem_append_right _ gone)
        exact later.not_mem_of_early deeds ledger new known
  · rw [deeds]
    exact List.mem_append_left _ member

omit tried later in
/-- An event that is lost by a deed is lost with its last call. -/
theorem lostWith_of_lost (gone : event ∈ finish.lost) : after.LostWith event := by
  cases finish with
  | drained => cases gone
  | deferred last left => cases gone
  | broken last panic left =>
    have panicked : last.verdict = .panicked :=
      Attempt.verdict_eq_panicked_iff.mpr ⟨panic, ledger.sound⟩
    have calls : deed.attempts = done ++ [last] := ledger.attempts_eq
    have batch : deed.taken = done.map Attempt.event ++ last.event :: left := ledger.batch_eq
    refine ⟨history.attempts ++ done, last, [], ?_, panicked, ?_, deed, ?_, ?_, ?_⟩
    · rw [attempts_of_deeds deeds, calls, List.append_assoc]
    · exact fun _ member => absurd member List.not_mem_nil
    · rw [deeds]
      exact List.mem_append_right _ List.mem_cons_self
    · rw [calls]
      exact List.mem_append_right _ List.mem_cons_self
    · rcases List.mem_cons.mp gone with same | behind
      · exact .inl same.symm
      · rw [batch]
        exact .inr (Before.append_iff.mpr (.inr (.inl (Before.cons_iff.mpr (.inr ⟨rfl, behind⟩)))))

/-- **A deed tries only what may be tried.** -/
theorem Tried.advance (balanced : history.Balanced) : after.Tried := by
  have nodup : deed.taken.Nodup := balanced.nodup_taken ledger
  have once : (deed.attempts.map Attempt.event).Nodup :=
    nodup.sublist ledger.attempts_prefix.sublist
  have lost : deed.lost = finish.lost := ledger.lost_eq nodup
  have attempts := attempts_of_deeds deeds
  refine ⟨?_, ?_, ?_, ?_, ?_⟩
  · intro attempt made
    rw [handedOver_of_ledger deeds ledger]
    rw [attempts] at made
    refine List.mem_append_left _ ?_
    rcases List.mem_append.mp made with before | now
    · exact List.mem_append_left _ (tried.known attempt before)
    · rcases List.mem_append.mp (ledger.mem_of_attempt now) with waiting | new
      · exact List.mem_append_left _ (balanced.perm.mem_iff.mpr
          (List.mem_append_left _ (List.mem_append_right _ waiting)))
      · exact List.mem_append_right _ new
  · intro event here verdict given
    rw [attempts, Attempts.verdicts_append] at given
    rcases List.mem_append.mp given with before | now
    · exact tried.waits_before later deeds ledger here verdict before
    · obtain ⟨attempt, made, rfl, rfl⟩ := Attempts.mem_verdicts.mp now
      exact unavailable_of_waiting later deeds ledger lost made here
  · intro event
    rw [attempts, Attempts.verdicts_append]
    by_cases called : event ∈ deed.attempts.map Attempt.event
    · obtain ⟨attempt, made, rfl⟩ := List.mem_map.mp called
      rw [Attempts.verdicts_eq_singleton once made]
      exact .concat (tried.waits_early later deeds ledger (ledger.mem_of_attempt made)) _
    · rw [Attempts.verdicts_eq_nil called, List.append_nil]
      exact tried.ends event
  · rw [deeds]
    exact List.forall_mem_append.mpr ⟨tried.once, List.forall_mem_singleton.mpr once⟩
  · intro event gone
    rw [lost_of_deeds deeds, lost] at gone
    rcases List.mem_append.mp gone with before | now
    · exact tried.gone_before later deeds ledger balanced before
    · exact lostWith_of_lost deeds ledger now

end

theorem tried_run (daemon : Daemon σ) (settings : DeliverySettings) (state : σ)
    (actions : List (Action σ)) : (run daemon settings actions (fresh settings state)).Tried := by
  have start : (fresh settings state).Balanced ∧ (fresh settings state).Tried :=
    ⟨balanced_fresh settings state, tried_fresh settings state⟩
  refine (run_induction (motive := fun history => history.Balanced ∧ history.Tried) start ?_).2
  intro history action _ ⟨balanced, tried⟩
  obtain ⟨deed, early, kept, done, finish, deeds, ledger⟩ :=
    exists_ledger daemon settings history action
  have later := balanced.advance deeds ledger
  exact ⟨later, tried.advance later deeds ledger balanced⟩

/-- Who has only been found unavailable is waiting, or was lost with an event before it. -/
theorem Tried.waiting_or_lost (tried : history.Tried) (balanced : history.Balanced)
    (known : event ∈ history.handedOver)
    (unanswered : ∀ verdict ∈ Attempts.verdicts event history.attempts,
      verdict = .unavailable) :
    event ∈ history.waiting
      ∨ ∃ (before : List Attempt) (attempt : Attempt) (after : List Attempt),
        history.attempts = before ++ attempt :: after ∧ attempt.verdict = .panicked
          ∧ (∀ later ∈ attempt :: after, later.event ≠ event)
          ∧ ∃ deed ∈ history.deeds, attempt ∈ deed.attempts
            ∧ Before attempt.event event deed.taken := by
  rcases List.mem_append.mp (balanced.perm.mem_iff.mp known) with here | gone
  · rcases List.mem_append.mp here with settled | waiting
    · obtain ⟨attempt, made, rfl⟩ := List.mem_map.mp settled
      obtain ⟨made, settles⟩ := List.mem_filter.mp made
      have given := unanswered _ (Attempts.mem_verdicts.mpr ⟨attempt, made, rfl, rfl⟩)
      exact absurd given (Verdict.ne_of_settles settles rfl)
    · exact .inl waiting
  · obtain ⟨before, attempt, after, split, panicked, never, deed, member, made, place⟩ :=
      tried.gone event gone
    have other : attempt.event ≠ event := by
      intro same
      have inside : attempt ∈ history.attempts := by
        rw [split]
        exact List.mem_append_right _ List.mem_cons_self
      have given := unanswered _ (Attempts.mem_verdicts.mpr ⟨attempt, inside, same, rfl⟩)
      rw [panicked] at given
      exact Verdict.noConfusion given
    exact .inr ⟨before, attempt, after, split, panicked,
      List.forall_mem_cons.mpr ⟨other, never⟩, deed, member, made, place.resolve_left other⟩

/-- **An event is tried until it is answered**, and then no more.  Whatever the daemon and others do,
the verdicts for an event are a number of times `unavailable` and at most one other behind them, so
that no call is made for an event that was accepted or rejected before, or whose call panicked.  No
pass calls twice for one event.  And an event that has only been found unavailable is waiting, unless
a later call, for an event before it in a batch, panicked. -/
theorem tried_until_answered (daemon : Daemon σ) (settings : DeliverySettings) (state : σ)
    (actions : List (Action σ)) :
    let history := run daemon settings actions (fresh settings state)
    (∀ event, ∃ (count : Nat) (last : Option Verdict), last ≠ some .unavailable
        ∧ Attempts.verdicts event history.attempts
          = List.replicate count .unavailable ++ last.toList)
      ∧ (∀ before attempt after, history.attempts = before ++ attempt :: after →
          attempt.verdict ≠ .unavailable → ∀ later ∈ after, later.event ≠ attempt.event)
      ∧ (∀ deed ∈ history.deeds, (deed.attempts.map Attempt.event).Nodup)
      ∧ ∀ event ∈ history.handedOver,
          (∀ verdict ∈ Attempts.verdicts event history.attempts, verdict = .unavailable) →
          event ∈ history.waiting
            ∨ ∃ (before : List Attempt) (attempt : Attempt) (after : List Attempt),
              history.attempts = before ++ attempt :: after ∧ attempt.verdict = .panicked
                ∧ (∀ later ∈ attempt :: after, later.event ≠ event)
                ∧ ∃ deed ∈ history.deeds, attempt ∈ deed.attempts
                  ∧ Before attempt.event event deed.taken := by
  intro history
  have tried : history.Tried := tried_run daemon settings state actions
  have balanced : history.Balanced := balanced_run daemon settings state actions
  refine ⟨tried.ends, ?_, tried.once, fun event => tried.waiting_or_lost balanced⟩
  intro before attempt after split final call made same
  have ends := tried.ends attempt.event
  have given : attempt.verdict :: Attempts.verdicts attempt.event after
      = Attempts.verdicts attempt.event (attempt :: after) := by
    simp [Attempts.verdicts]
  rw [split, Attempts.verdicts_append, ← given] at ends
  have inside : call.verdict ∈ Attempts.verdicts attempt.event after :=
    Attempts.mem_verdicts.mpr ⟨call, made, same, rfl⟩
  rw [ends.eq_nil final] at inside
  exact List.not_mem_nil inside

/-- A daemon that cannot be reached for its first call, accepts the event of the second one, and then
fails. -/
def faltering : Daemon Nat :=
  .uniform (fun made => { answer := .ok true, next := made }) fun _ made =>
    { answer := match made with
        | 0 => .ok (.error ⟨.unavailable, ""⟩)
        | 1 => .ok (.ok ())
        | _ => .error ⟨""⟩
      next := made + 1 }

/-- Of three events that were put off, the first one is accepted when it is tried again, and the last
one is lost with the call for the second. -/
theorem tried_until_answered_faltering :
    let actions : List (Action Nat) := [.enqueue [.start [], .start [], .start []], .pass, .pass]
    let history := run faltering {} actions (fresh {} 0)
    Attempts.verdicts ⟨.start [], 0⟩ history.attempts = [.unavailable, .accepted]
      ∧ (∀ later ∈ history.attempts.drop 2, later.event ≠ ⟨.start [], 0⟩)
      ∧ ⟨.start [], 2⟩ ∉ history.waiting
      ∧ ∃ attempt ∈ history.attempts, attempt.verdict = .panicked
        ∧ ∃ deed ∈ history.deeds, Before attempt.event ⟨.start [], 2⟩ deed.taken := by
  intro actions history
  have twice : Attempts.verdicts ⟨.start [], 0⟩ history.attempts = [.unavailable, .accepted] := by
    decide
  have gone : (⟨.start [], 2⟩ : Event) ∉ history.waiting := by decide
  obtain ⟨_, final, _, unanswered⟩ := tried_until_answered faltering {} 0 actions
  have long : 1 < history.attempts.length := by decide
  have split : history.attempts
      = history.attempts.take 1 ++ history.attempts.get ⟨1, long⟩ :: history.attempts.drop 2 := by
    conv_lhs => rw [← List.take_append_drop 1 history.attempts]
    exact congrArg _ (List.drop_eq_getElem_cons long)
  have accepted : (history.attempts.get ⟨1, long⟩).verdict = .accepted := rfl
  refine ⟨twice, final _ _ _ split (by rw [accepted]; exact nofun), gone, ?_⟩
  rcases unanswered ⟨.start [], 2⟩ (by decide) (by decide) with
    waiting | ⟨before, attempt, after, whole, panicked, _, deed, done, _, place⟩
  · exact absurd waiting gone
  · have made : attempt ∈ history.attempts := by
      rw [whole]
      exact List.mem_append_right _ List.mem_cons_self
    exact ⟨attempt, made, panicked, deed, done, place⟩

end History

end JobHooks
