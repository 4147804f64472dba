import JobHooks.Proofs.History

/-!
# The schedule does not matter

Suppose that the daemon answers each call by the number of calls made before and the payload alone,
and that nothing is handed over during the calls.  Then the calls are those of a courier who carries
one event at a time in the order in which they were handed over: the courier calls for an event
until the daemon can be reached for it, and then goes on to the next one.

`Attempts.oneByOne` is the courier.  Between two deeds the worker has made the first calls of the
courier, and what is waiting is what the courier has not yet carried (`History.AtCursor`).  So it
makes no difference to the calls when the worker makes its passes, how the events are divided into
batches, and when the daemon can be reached (`History.schedule_independence`).
-/

namespace JobHooks

set_option autoImplicit false

/-- A daemon whose answer to a call depends on the number of calls `made` before and the payload
alone, and who does nothing else during a call. -/
structure Daemon.Replies {σ : Type} (daemon : Daemon σ) (made : σ → Nat)
    (reply : Nat → Payload → Except Status Unit) : Prop where
  poll : ∀ timeout state, made (daemon.poll timeout state).next = made state
  answer : ∀ context payload state, (daemon.dispatch context payload state).reaction.answer
    = .ok (reply (made state) payload)
  effects : ∀ context payload state, (daemon.dispatch context payload state).reaction.effects = {}
  next : ∀ context payload state,
    made (daemon.dispatch context payload state).reaction.next = made state + 1

/-- What a daemon remembers that counts its calls. -/
structure Tally where
  ready : Bool := true
  made : Nat := 0

/-- The daemon that counts its calls and replies accordingly. -/
def Daemon.tallying (reply : Nat → Payload → Except Status Unit) : Daemon Tally :=
  .uniform (fun tally => { answer := .ok tally.ready, next := tally }) fun payload tally =>
    { answer := .ok (reply tally.made payload), next := { tally with made := tally.made + 1 } }

theorem Daemon.tallying_replies (reply : Nat → Payload → Except Status Unit) :
    (tallying reply).Replies Tally.made reply where
  poll := fun _ _ => rfl
  answer := fun _ _ _ => by rw [tallying, reaction_uniform]
  effects := fun _ _ _ => by rw [tallying, reaction_uniform]
  next := fun _ _ _ => by rw [tallying, reaction_uniform]

/-! ## The courier -/

section

variable (settings : DeliverySettings) (reply : Nat → Payload → Except Status Unit)

/-- The call for an event after so many others. -/
def Attempt.replied (made : Nat) (event : Event) : Attempt where
  event := event
  call := event.call settings
  answer := .ok (reply made event.payload)

namespace Attempts

/-- The calls for events, each of them once, after so many others. -/
def replied : Nat → List Event → List Attempt
  | _, [] => []
  | made, event :: events => .replied settings reply made event :: replied (made + 1) events

/-- The calls of a courier, `limit` at most, after so many others: the courier calls for the first
event, stays with it if the daemon cannot be reached, and else goes on to those behind it. -/
def oneByOne : Nat → Nat → List Event → List Attempt
  | 0, _, _ => []
  | _ + 1, _, [] => []
  | limit + 1, made, event :: rest =>
    let attempt : Attempt := .replied settings reply made event
    attempt :: oneByOne limit (made + 1)
      (if attempt.verdict = .unavailable then event :: rest else rest)

variable {settings reply}

theorem replied_append (made : Nat) (earlier later : List Event) :
    replied settings reply made (earlier ++ later)
      = replied settings reply made earlier
        ++ replied settings reply (made + earlier.length) later := by
  induction earlier generalizing made with
  | nil => rfl
  | cons event earlier ih =>
    simp only [List.cons_append, replied, ih, List.length_cons, Nat.add_right_comm, Nat.add_assoc]

theorem length_replied (made : Nat) (events : List Event) :
    (replied settings reply made events).length = events.length := by
  induction events generalizing made with
  | nil => rfl
  | cons event events ih => simp only [replied, List.length_cons, ih]

/-- With a higher limit, a courier makes the same calls and others after them. -/
theorem oneByOne_prefix {limit more : Nat} (less : limit ≤ more) (made : Nat)
    (events : List Event) :
    oneByOne settings reply limit made events <+: oneByOne settings reply more made events := by
  induction limit generalizing more made events with
  | zero => exact List.nil_prefix
  | succ limit ih =>
    obtain ⟨more, rfl⟩ := Nat.exists_eq_add_of_le' less
    cases events with
    | nil => exact List.nil_prefix
    | cons event rest =>
      exact (List.prefix_cons_inj _).mpr (ih (Nat.le_of_add_le_add_right less) _ _)

/-- Nothing is handed over during these calls. -/
theorem arrived_replied (made : Nat) (events : List Event) :
    arrived (replied settings reply made events) = [] := by
  induction events generalizing made with
  | nil => rfl
  | cons event events ih =>
    rw [replied, arrived_cons, ih]
    rfl

/-- A part of these calls, and the rest of them. -/
theorem replied_split {made : Nat} {earlier later : List Attempt}
    (same : replied settings reply made ((earlier ++ later).map Attempt.event)
      = earlier ++ later) :
    replied settings reply made (earlier.map Attempt.event) = earlier
      ∧ replied settings reply (made + earlier.length) (later.map Attempt.event) = later := by
  rw [List.map_append, replied_append, List.length_map] at same
  exact List.append_inj same (by rw [length_replied, List.length_map])

/-- The courier leaves behind the events that are settled. -/
theorem oneByOne_of_settled {made : Nat} {done : List Attempt}
    (same : replied settings reply made (done.map Attempt.event) = done)
    (settled : ∀ attempt ∈ done, attempt.verdict.settles = true) (limit : Nat)
    (more : List Event) :
    oneByOne settings reply (done.length + limit) made (done.map Attempt.event ++ more)
      = done ++ oneByOne settings reply limit (made + done.length) more := by
  induction done generalizing made with
  | nil => rw [List.length_nil, Nat.zero_add]; rfl
  | cons attempt done ih =>
    obtain ⟨here, later⟩ := List.cons.inj same
    have reached : attempt.verdict ≠ .unavailable :=
      Verdict.ne_of_settles (settled attempt List.mem_cons_self) rfl
    have rest := ih later fun other member => settled other (List.mem_cons_of_mem _ member)
    rw [List.length_cons, Nat.add_right_comm, List.map_cons, List.cons_append, oneByOne]
    simp only [here, if_neg reached, rest, List.cons_append, Nat.add_assoc, Nat.add_comm 1]

/-- The courier stays with an event for which the daemon cannot be reached. -/
theorem oneByOne_of_unavailable {made : Nat} {last : Attempt}
    (same : replied settings reply made [last.event] = [last])
    (unavailable : last.verdict = .unavailable) (limit : Nat) (rest : List Event) :
    oneByOne settings reply (limit + 1) made (last.event :: rest)
      = last :: oneByOne settings reply limit (made + 1) (last.event :: rest) := by
  have here : Attempt.replied settings reply made last.event = last := (List.cons.inj same).1
  rw [oneByOne]
  simp only [here, if_pos unavailable]

end Attempts

end

/-! ## The worker's calls -/

variable {σ : Type} {daemon : Daemon σ} {settings : DeliverySettings} {made : σ → Nat}
  {reply : Nat → Payload → Except Status Unit}

/-- The calls of an exchange with a daemon that replies by their number. -/
theorem Worker.exchange_replied (settings : DeliverySettings)
    (replies : daemon.Replies made reply) (events : List Event) (worker : Worker σ) :
    (exchange daemon settings events worker).1
        = Attempts.replied settings reply (made worker.daemon) events
      ∧ made (exchange daemon settings events worker).2.daemon
        = made worker.daemon + events.length := by
  induction events generalizing worker with
  | nil => exact ⟨rfl, rfl⟩
  | cons event events ih =>
    have one : attempt daemon settings event worker
        = .replied settings reply (made worker.daemon) event := by
      simp only [attempt, reaction, replies.answer, replies.effects]
      rfl
    have next : made (called daemon settings event worker).daemon = made worker.daemon + 1 :=
      replies.next _ _ _
    obtain ⟨calls, count⟩ := ih (called daemon settings event worker)
    rw [next] at calls count
    refine ⟨?_, ?_⟩
    · simp only [exchange, one, calls, Attempts.replied]
    · simp only [exchange, count, List.length_cons]
      omega

/-- The calls of a pass, when so many have been made before. -/
theorem Worker.Passed.replied (replies : daemon.Replies made reply) {worker : Worker σ}
    {progress : Progress σ PassOutcome} {early kept : List Event} {done : List Attempt}
    {finish : Finish} (passed : Passed daemon settings worker progress early kept done finish) :
    Attempts.replied settings reply (made worker.daemon)
        (progress.trace.attempts.map Attempt.event) = progress.trace.attempts
      ∧ made progress.worker.daemon = made worker.daemon + progress.trace.attempts.length := by
  obtain ⟨start, after, begins, exchanged, ends⟩ := passed.exchanged
  have first : made start.daemon = made worker.daemon := by
    rcases begins with same | same
    · rw [same]
    · rw [same]
      exact replies.poll _ _
  obtain ⟨calls, count⟩ := exchange_replied settings replies
    (progress.trace.attempts.map Attempt.event) start
  rw [exchanged, first] at calls count
  rw [List.length_map] at count
  exact ⟨calls.symm, ends ▸ count⟩

/-- An action that leaves the number of calls alone. -/
def Action.Keeps (made : σ → Nat) : Action σ → Prop
  | .adjust change => ∀ state, made (change state) = made state
  | .enqueue _ | .setStop _ | .pass => True

namespace History

variable {history after : History σ} {deed : Deed} {early kept : List Event} {done : List Attempt}
  {finish : Finish}

/-- The ledger of an action, with the calls that were made. -/
theorem exists_replied (settings : DeliverySettings) (replies : daemon.Replies made reply)
    (history : History σ) {action : Action σ} (keeps : action.Keeps made) :
    ∃ deed early kept done finish,
      (act daemon settings history action).deeds = history.deeds ++ [deed]
        ∧ Worker.Ledger history.worker deed (act daemon settings history action).worker early kept
            done finish
        ∧ Attempts.replied settings reply (made history.worker.daemon)
            (deed.attempts.map Attempt.event) = deed.attempts
        ∧ made (act daemon settings history action).worker.daemon
          = made history.worker.daemon + deed.attempts.length := by
  cases action with
  | enqueue payloads =>
    exact ⟨_, _, _, _, _, rfl, .of_enqueue history.worker payloads, rfl, rfl⟩
  | setStop stop => exact ⟨_, _, _, _, _, rfl, .of_setStop history.worker stop, rfl, rfl⟩
  | adjust change =>
    exact ⟨_, _, _, _, _, rfl, .of_adjust history.worker _, rfl, keeps history.worker.daemon⟩
  | pass =>
    obtain ⟨early, kept, done, finish, passed⟩ :=
      Worker.exists_passed daemon settings history.worker
    obtain ⟨calls, count⟩ := passed.replied replies
    exact ⟨_, early, kept, done, finish, rfl, passed.toLedger, calls, count⟩

/-- The worker is where a courier would be: it has made the first calls of the courier, whatever is
handed over later, and what is waiting is what the courier would carry next. -/
structure AtCursor (settings : DeliverySettings) (made : σ → Nat)
    (reply : Nat → Payload → Except Status Unit) (history : History σ) : Prop where
  made_eq : made history.worker.daemon = history.attempts.length
  resumes : ∀ (limit : Nat) (more : List Event),
    Attempts.oneByOne settings reply (history.attempts.length + limit) 0
        (history.handedOver ++ more)
      = history.attempts ++ Attempts.oneByOne settings reply limit history.attempts.length
          (history.waiting ++ more)

theorem atCursor_fresh {state : σ} (start : made state = 0) :
    AtCursor settings made reply (fresh settings state) where
  made_eq := start
  resumes := fun limit more => by
    simp only [fresh, handedOver, attempts, waiting, List.flatMap_nil, List.length_nil,
      Nat.zero_add, List.nil_append]
    rfl

/-- A call that is answered does not end a batch with a panic, so that nothing is lost. -/
theorem lost_of_replied {count : Nat}
    (ledger : Worker.Ledger history.worker deed after.worker early kept done finish)
    (calls : Attempts.replied settings reply count (deed.attempts.map Attempt.event)
      = deed.attempts) : finish.lost = [] := by
  cases finish with
  | drained => rfl
  | deferred last left => rfl
  | broken last panic left =>
    rw [ledger.attempts_eq] at calls
    have ends := (Attempts.replied_split calls).2
    have answer := congrArg Attempt.answer (List.cons.inj ends).1
    rw [show last.answer = .error panic from ledger.sound] at answer
    cases answer

/-- The calls of a deed are those of a courier who begins with what is waiting and is left with what
is waiting after it. -/
theorem oneByOne_of_ledger {count : Nat}
    (ledger : Worker.Ledger history.worker deed after.worker early kept done finish)
    (calls : Attempts.replied settings reply count (deed.attempts.map Attempt.event)
      = deed.attempts) (limit : Nat) (more : List Event) :
    Attempts.oneByOne settings reply (deed.attempts.length + limit) count
        (history.waiting ++ early ++ more)
      = deed.attempts ++ Attempts.oneByOne settings reply limit (count + deed.attempts.length)
          (after.waiting ++ more) := by
  have nothing : finish.lost = [] := lost_of_replied ledger calls
  have nobody : Attempts.arrived deed.attempts = [] := by
    rw [← calls]
    exact Attempts.arrived_replied _ _
  have waits : after.waiting = kept ++ finish.returned := by
    rw [waiting, ledger.queue_eq, nobody, List.append_nil]
  have line : history.waiting ++ early = done.map Attempt.event ++ after.waiting := by
    rw [waits]
    exact ledger.waiting_order nothing
  rw [ledger.attempts_eq] at calls ⊢
  obtain ⟨first, ends⟩ := Attempts.replied_split calls
  rw [line, List.append_assoc, List.length_append, Nat.add_assoc,
    Attempts.oneByOne_of_settled first ledger.settled, List.append_assoc, ← Nat.add_assoc]
  congr 1
  cases finish with
  | drained => rw [Finish.attempts, List.length_nil, Nat.zero_add]; rfl
  | deferred last left =>
    have behind : after.waiting = last.event :: left := by
      rw [waits, ledger.kept_eq_nil (List.cons_ne_nil _ _)]
      rfl
    rw [behind, Nat.add_comm]
    exact Attempts.oneByOne_of_unavailable ends ledger.sound limit (left ++ more)
  | broken last panic left => exact absurd nothing (List.cons_ne_nil _ _)

/-- **A deed keeps the worker where a courier would be.** -/
theorem AtCursor.advance (atCursor : history.AtCursor settings made reply)
    (deeds : after.deeds = history.deeds ++ [deed])
    (ledger : Worker.Ledger history.worker deed after.worker early kept done finish)
    (calls : Attempts.replied settings reply (made history.worker.daemon)
      (deed.attempts.map Attempt.event) = deed.attempts)
    (count : made after.worker.daemon = made history.worker.daemon + deed.attempts.length) :
    after.AtCursor settings made reply := by
  rw [atCursor.made_eq] at calls count
  have nobody : Attempts.arrived deed.attempts = [] := by
    rw [← calls]
    exact Attempts.arrived_replied _ _
  refine ⟨?_, fun limit more => ?_⟩
  · rw [count, attempts_of_deeds deeds, List.length_append]
  · rw [attempts_of_deeds deeds, handedOver_of_deeds deeds, ledger.arrived_eq, nobody,
      List.append_nil, List.length_append, Nat.add_assoc, List.append_assoc, atCursor.resumes,
      ← List.append_assoc, oneByOne_of_ledger ledger calls, List.append_assoc]

theorem atCursor_run (replies : daemon.Replies made reply) {state : σ} (start : made state = 0)
    {actions : List (Action σ)} (keeps : ∀ action ∈ actions, action.Keeps made) :
    (run daemon settings actions (fresh settings state)).AtCursor settings made reply := by
  refine run_induction (atCursor_fresh start) ?_
  intro history action member atCursor
  obtain ⟨deed, early, kept, done, finish, deeds, ledger, calls, count⟩ :=
    exists_replied settings replies history (keeps action member)
  exact atCursor.advance deeds ledger calls count

/-- The calls that were made are the courier's, for any order that begins with what was handed over.
-/
theorem AtCursor.attempts_eq (atCursor : history.AtCursor settings made reply)
    {order : List Event} (begins : history.handedOver <+: order) :
    history.attempts = Attempts.oneByOne settings reply history.attempts.length 0 order := by
  obtain ⟨more, rfl⟩ := begins
  exact ((atCursor.resumes 0 more).trans (List.append_nil _)).symm

/-- **The schedule does not matter** to a daemon that replies by the number of calls made before and
the payload.  However producers, changes of the daemon and passes take turns, the calls are the
courier's first ones along the order in which the events are handed over, and the totals count those
of them that were accepted and rejected.  Of two schedules for one order, one makes the first calls
of the other; if they make equally many, they have the same totals. -/
theorem schedule_independence (daemon : Daemon σ) (settings : DeliverySettings) (made : σ → Nat)
    (reply : Nat → Payload → Except Status Unit) (replies : daemon.Replies made reply)
    (state other : σ) (start : made state = 0) (otherStart : made other = 0)
    (actions others : List (Action σ)) (keeps : ∀ action ∈ actions, action.Keeps made)
    (otherKeeps : ∀ action ∈ others, action.Keeps made) (order : List Event) :
    let history := run daemon settings actions (fresh settings state)
    let another := run daemon settings others (fresh settings other)
    history.handedOver <+: order →
      let courier := Attempts.oneByOne settings reply history.attempts.length 0 order
      (history.attempts = courier
        ∧ history.worker.stats.sent
          = UInt64.ofNat (Attempts.withVerdict .accepted courier).length
        ∧ history.worker.stats.rejected
          = UInt64.ofNat (Attempts.withVerdict .rejected courier).length)
      ∧ (another.handedOver <+: order →
        (history.attempts <+: another.attempts ∨ another.attempts <+: history.attempts)
          ∧ (history.attempts.length = another.attempts.length →
            history.attempts = another.attempts
              ∧ history.worker.stats.sent = another.worker.stats.sent
              ∧ history.worker.stats.rejected = another.worker.stats.rejected)) := by
  intro history another begins courier
  have calls : history.attempts = courier := (atCursor_run replies start keeps).attempts_eq begins
  have counted := counted_run daemon settings state actions
  have otherCounted := counted_run daemon settings other others
  refine ⟨⟨calls, ?_⟩, fun otherBegins => ?_⟩
  · rw [← calls]
    exact counted
  · have otherCalls : another.attempts
        = Attempts.oneByOne settings reply another.attempts.length 0 order :=
      (atCursor_run replies otherStart otherKeeps).attempts_eq otherBegins
    refine ⟨?_, fun same => ?_⟩
    · rw [calls, otherCalls]
      exact (Nat.le_total history.attempts.length another.attempts.length).imp
        (Attempts.oneByOne_prefix · 0 order) (Attempts.oneByOne_prefix · 0 order)
    · have equal : history.attempts = another.attempts := by
        rw [otherCalls, ← same]
        exact calls
      refine ⟨equal, ?_, ?_⟩
      · exact counted.1.trans ((congrArg (UInt64.ofNat ∘ List.length ∘
          Attempts.withVerdict .accepted) equal).trans otherCounted.1.symm)
      · exact counted.2.trans ((congrArg (UInt64.ofNat ∘ List.length ∘
          Attempts.withVerdict .rejected) equal).trans otherCounted.2.symm)

/-- Two schedules for two events, when the daemon cannot be reached for the second call. -/
theorem schedule_independence_tallying :
    let reply : Nat → Payload → Except Status Unit := fun made _ =>
      if made = 1 then .error ⟨.unavailable, ""⟩ else .ok ()
    let together : List (Action Tally) := [.enqueue [.start [], .finish []], .pass, .pass]
    let apart : List (Action Tally) :=
      [.enqueue [.start []], .pass, .adjust ({ · with ready := false }), .enqueue [.finish []],
        .pass, .adjust ({ · with ready := true }), .pass, .pass]
    let history := run (.tallying reply) {} together (fresh {} {})
    let another := run (.tallying reply) {} apart (fresh {} {})
    history.attempts.length = 3 ∧ history.attempts = another.attempts := by
  intro reply together apart history another
  have keeps : ∀ action ∈ together, action.Keeps Tally.made := by
    simp [together, Action.Keeps]
  have otherKeeps : ∀ action ∈ apart, action.Keeps Tally.made := by
    simp [apart, Action.Keeps]
  have begins : history.handedOver <+: [⟨.start [], 0⟩, ⟨.finish [], 1⟩] := by decide
  have otherBegins : another.handedOver <+: [⟨.start [], 0⟩, ⟨.finish [], 1⟩] := by decide
  have three : history.attempts.length = 3 := by decide
  have otherThree : another.attempts.length = 3 := by decide
  obtain ⟨_, compare⟩ := schedule_independence (.tallying reply) {} Tally.made reply
    (Daemon.tallying_replies reply) {} {} rfl rfl together apart keeps otherKeeps _ begins
  exact ⟨three, ((compare otherBegins).2 (three.trans otherThree.symm)).1⟩

end History

end JobHooks
