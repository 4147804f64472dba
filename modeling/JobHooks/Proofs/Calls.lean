import JobHooks.Proofs.Retry
import JobHooks.Proofs.Stop

/-!
# What the daemon is called with

`Daemon.receive` is what the daemon itself does with a call, and `Daemon.stateAfter` the state in
which calls leave it.  With them, `Worker.CallAt` says of a call in the trace of a batch that it is
the one that its event asks for, that what came of it is what the daemon made of it in the state in
which the calls before had left it, and what stands right behind it in the trace: the report of what
came of it, which quotes the detail that was left in the context of that very call.

`Worker.callAt_sendInOrder` finds this for every call of a batch, by induction on the batch, and
`Worker.callAt_pass` for every call of a pass.  `History.calls_stay_apart` puts together that the
payload and the context of one call do not get into another.
-/

namespace JobHooks

set_option autoImplicit false

/-! ## Contexts -/

namespace CallContext

/-- The detail that was left last is the one that is there. -/
theorem detail?_foldl (context : CallContext) (details : List String) :
    (details.foldl withDetail context).detail? = details.getLast?.or context.detail? := by
  induction details generalizing context with
  | nil => rfl
  | cons detail details ih =>
    rw [List.foldl_cons, ih, List.getLast?_cons]
    cases details.getLast? <;> rfl

/-- Of a context that was fresh, the detail is the one that was left last, and empty if none was. -/
theorem detail_of_details {context : CallContext} {timeout : Option Nat} {details : List String}
    (left : context = details.foldl withDetail (fresh timeout)) :
    context.detail = details.getLast?.getD "" := by
  rw [left, detail, detail?_foldl]
  cases details.getLast? <;> rfl

end CallContext

/-! ## Calls as the daemon receives them -/

namespace Daemon

variable {σ : Type} (daemon : Daemon σ)

/-- What the daemon does with a call. -/
def receive (call : Call) (state : σ) : CallReaction σ :=
  match call.request with
  | .start jobs => daemon.startHook call.context jobs state
  | .finish jobs => daemon.finishHook call.context jobs state
  | .monitor target => daemon.monitorHook call.context target state

/-- The state in which calls leave the daemon. -/
def stateAfter (calls : List Call) (state : σ) : σ :=
  calls.foldl (fun state call => (daemon.receive call state).next) state

/-- A payload that is dispatched reaches the daemon, in a call for its own kind. -/
theorem dispatch_reaches (context : CallContext) (payload : Payload) (state : σ) :
    (daemon.dispatch context payload state).call? = some ⟨payload.hookType, context, payload⟩
      ∧ (daemon.dispatch context payload state).reaction
        = daemon.receive ⟨payload.hookType, context, payload⟩ state := by
  cases payload <;> exact ⟨rfl, rfl⟩

/-- An entry for another kind refuses a payload before the daemon is called. -/
theorem send_of_ne {entry : HookType} {payload : Payload} (other : entry ≠ payload.hookType)
    (context : CallContext) (state : σ) :
    daemon.send entry context payload state = refuse entry context payload state := by
  cases entry <;> cases payload <;> first | rfl | exact absurd rfl other

end Daemon

/-- A notice is one of those that the daemon itself reports. -/
def Daemon.Reports {σ : Type} (daemon : Daemon σ) (notice : Notice) : Prop :=
  (∃ timeout state, notice ∈ (daemon.poll timeout state).notices)
    ∨ ∃ call state, notice ∈ (daemon.receive call state).notices

/-- Whether a notice reports that a call has failed. -/
def Notice.tellsOfFailure : Notice → Bool
  | rejected _ _ _ | deferred _ _ _ _ => true
  | _ => false

namespace Attempt

variable {σ : Type} (daemon : Daemon σ) (settings : DeliverySettings) (state : σ)

/-- A call is the one that its event asks for, and what came of it is what the daemon made of it in
the given state. -/
structure Made (attempt : Attempt) : Prop where
  call_eq : attempt.call = attempt.event.call settings
  answer_eq : attempt.answer = (daemon.receive attempt.call state).answer
  stop_eq : attempt.meanwhile.stop? = (daemon.receive attempt.call state).effects.stop?
  arrived_eq : attempt.meanwhile.arrived.map Event.payload
    = (daemon.receive attempt.call state).effects.arrivals

end Attempt

namespace Event

@[simp] theorem map_payload_numbered (first : Nat) (payloads : List Payload) :
    (numbered first payloads).map payload = payloads := by
  induction payloads generalizing first with
  | nil => rfl
  | cons payload payloads ih => rw [numbered, List.map_cons, ih]

/-- Where events are numbered from zero on, each one stands at the place of its number. -/
theorem Consecutive.getElem?_arrival {events : List Event} (consecutive : Consecutive 0 events)
    {event : Event} (member : event ∈ events) : events[event.arrival]? = some event := by
  obtain ⟨index, inside, found⟩ := List.getElem_of_mem member
  have here : event.arrival = index := by
    have number := congrArg (·[index]?) consecutive
    simp only [List.getElem?_map, List.getElem?_eq_getElem inside, found, Option.map_some,
      List.getElem?_range' inside] at number
    have same := Option.some.inj number
    omega
  rw [here, List.getElem?_eq_getElem inside, found]

end Event

/-! ## Calls in a trace -/

namespace Trace

theorem mem_attempts {before after : Trace} {call : Attempt} :
    call ∈ (before ++ .called call :: after : Trace).attempts := by
  rw [attempts_append]
  exact List.mem_append_right _ List.mem_cons_self

theorem exists_split {trace : Trace} {call : Attempt} (made : call ∈ trace.attempts) :
    ∃ before after, trace = before ++ .called call :: after := by
  obtain ⟨occurrence, member, picked⟩ := List.mem_filterMap.mp made
  cases occurrence with
  | called other =>
    obtain rfl := Option.some.inj picked
    exact List.append_of_mem member
  | polled | taken | noted | paused => cases picked

/-- A call in the course of two traces, the first of which has none, is in the second. -/
theorem split_uncalled {first second before after : Trace} {call : Attempt}
    (none : first.attempts = []) (whole : first ++ second = before ++ .called call :: after) :
    ∃ between, before = first ++ between ∧ second = between ++ .called call :: after := by
  rcases append_eq_split whole with ⟨behind, here, -⟩ | later
  · have made : call ∈ first.attempts := here ▸ mem_attempts
    rw [none] at made
    exact absurd made List.not_mem_nil
  · exact later

/-- Something holds of every moment of a trace, given what happened before and after it. -/
def Throughout (holds : Trace → Occurrence → Trace → Prop) (trace : Trace) : Prop :=
  ∀ before moment after, trace = before ++ moment :: after → holds before moment after

/-- What holds of a moment is not disturbed by what happened earlier still or happens later. -/
def Steady (holds : Trace → Occurrence → Trace → Prop) : Prop :=
  ∀ earlier before moment after later, holds before moment after →
    holds (earlier ++ before) moment (after ++ later)

section

variable {holds : Trace → Occurrence → Trace → Prop}

theorem throughout_nil : Throughout holds [] := by
  intro before moment after whole
  exact absurd whole.symm (List.append_ne_nil_of_right_ne_nil _ (List.cons_ne_nil _ _))

/-- What does not depend on what happened around a moment can be seen from each occurrence. -/
theorem throughout_of_forall {trace : Trace}
    (each : ∀ moment ∈ trace, ∀ before after, holds before moment after) :
    Throughout holds trace := by
  rintro before moment after rfl
  exact each moment (List.mem_append_right _ List.mem_cons_self) before after

/-- What is steady holds throughout two traces if it does throughout each of them. -/
theorem Throughout.append {first second : Trace} (steady : Steady holds)
    (start : Throughout holds first) (rest : Throughout holds second) :
    Throughout holds (first ++ second) := by
  intro before moment after whole
  rcases append_eq_split whole with ⟨behind, here, rfl⟩ | ⟨between, rfl, here⟩
  · exact steady [] before moment behind second (start before moment behind here)
  · have later := steady first between moment after [] (rest between moment after here)
    rw [List.append_nil] at later
    exact later

end

end Trace

/-! ## What stands behind a call -/

/-- What stands behind a call in the trace of its batch: the report of what came of it.  The report
of a failure quotes the detail in the context.  Behind a call that panicked, and behind the report
of one that found the daemon unreachable, the trace ends; in the latter case so many events of the
batch are `left`. -/
inductive Reported (attempt : Attempt) (context : CallContext) (left : Nat) : Trace → Prop
  | panicked {panic : Panic} (answer : attempt.answer = .error panic) :
      Reported attempt context left []
  | accepted (answer : attempt.answer = .ok (.ok ())) (rest : Trace) :
      Reported attempt context left (.noted (.sent attempt.event.hookType) :: rest)
  | rejected {status : Status} (answer : attempt.answer = .ok (.error status))
      (final : status.isTransient = false) (rest : Trace) :
      Reported attempt context left
        (.noted (.rejected attempt.event.hookType context.detail status) :: rest)
  | deferred {status : Status} (answer : attempt.answer = .ok (.error status))
      (transient : status.isTransient = true) :
      Reported attempt context left
        [.noted (.deferred attempt.event.hookType left context.detail status.message)]

namespace Worker

variable {σ : Type} (daemon : Daemon σ) (settings : DeliverySettings)

/-- A call in the trace of a batch of so many events, between what happened before and after it.
The daemon was in the given state when the first call was made. -/
structure CallAt (state : σ) (size : Nat) (before : Trace) (attempt : Attempt) (after : Trace) :
    Prop where
  made : attempt.Made daemon settings (daemon.stateAfter before.calls state)
  settled : ∀ earlier ∈ before.attempts, earlier.verdict.settles = true
  reported : Reported attempt
    (daemon.receive attempt.call (daemon.stateAfter before.calls state)).context
    (size - before.attempts.length) after

variable {daemon settings}

/-- The daemon makes of an event what it makes of the call that the event asks for. -/
theorem reaction_eq (event : Event) (worker : Worker σ) :
    reaction daemon settings event worker
      = daemon.receive (event.call settings) worker.daemon :=
  (daemon.dispatch_reaches _ event.payload worker.daemon).2

theorem made_attempt (event : Event) (worker : Worker σ) :
    (attempt daemon settings event worker).Made daemon settings worker.daemon := by
  have same : reaction daemon settings event worker
      = daemon.receive (event.call settings) worker.daemon := reaction_eq event worker
  refine ⟨rfl, congrArg (·.answer) same, congrArg (·.effects.stop?) same, ?_⟩
  exact (Event.map_payload_numbered _ _).trans (congrArg (·.effects.arrivals) same)

/-- An exchange leaves the daemon in the state in which its calls do. -/
theorem daemon_exchange (events : List Event) (worker : Worker σ) :
    (exchange daemon settings events worker).2.daemon
      = daemon.stateAfter (events.map (Event.call settings)) worker.daemon := by
  induction events generalizing worker with
  | nil => rfl
  | cons event events ih =>
    have first : (called daemon settings event worker).daemon
        = (daemon.receive (event.call settings) worker.daemon).next :=
      congrArg (·.next) (reaction_eq event worker)
    simp only [exchange, ih, first]
    rfl

/-- The first attempts of an exchange are an exchange, behind which the daemon is in the state in
which their calls leave it, and the others are one from there. -/
theorem exchange_split {first rest : List Attempt} {worker after : Worker σ}
    (whole : exchange daemon settings ((first ++ rest).map Attempt.event) worker
      = (first ++ rest, after)) :
    ∃ between, exchange daemon settings (first.map Attempt.event) worker = (first, between)
      ∧ between.daemon = daemon.stateAfter (first.map Attempt.call) worker.daemon
      ∧ exchange daemon settings (rest.map Attempt.event) between = (rest, after) := by
  rw [List.map_append, exchange_append] at whole
  obtain ⟨attempts, last⟩ := Prod.mk.inj whole
  have length : (exchange daemon settings (first.map Attempt.event) worker).1.length
      = first.length := by
    rw [← List.length_map Attempt.event, map_event_exchange, List.length_map]
  obtain ⟨early, late⟩ := List.append_inj attempts length
  have calls : first.map Attempt.call = (first.map Attempt.event).map (Event.call settings) := by
    rw [List.map_map]
    refine List.map_congr_left fun attempt made => ?_
    have here : attempt ∈ (exchange daemon settings (first.map Attempt.event) worker).1 := by
      rw [early]
      exact made
    exact call_of_mem_exchange here
  refine ⟨_, Prod.ext early rfl, ?_, Prod.ext late last⟩
  rw [calls]
  exact daemon_exchange _ worker

/-- A call in a trace that begins with the call for an event is that call, or it comes later. -/
theorem split_attemptTrace {event : Event} {worker : Worker σ} {rest before after : Trace}
    {call : Attempt}
    (whole : attemptTrace daemon settings event worker ++ rest = before ++ .called call :: after) :
    (∃ notices : List Notice, before = notices.map .noted
        ∧ call = attempt daemon settings event worker ∧ rest = after)
      ∨ ∃ between, before = attemptTrace daemon settings event worker ++ between
        ∧ rest = between ++ .called call :: after := by
  obtain ⟨notices, same⟩ := attemptTrace_eq daemon settings event worker
  rw [same, List.append_assoc] at whole
  obtain ⟨between, rfl, found⟩ := Trace.split_uncalled (Trace.attempts_map_noted notices) whole
  cases between with
  | nil =>
    obtain ⟨called, rfl⟩ := List.cons.inj found
    exact .inl ⟨notices, List.append_nil _, (Occurrence.called.inj called).symm, rfl⟩
  | cons first between =>
    obtain ⟨rfl, later⟩ := List.cons.inj found
    refine .inr ⟨between, ?_, later⟩
    rw [same, List.append_assoc]
    rfl

/-! ## The calls of a batch -/

section

variable {event : Event} {rest : List Event} {worker : Worker σ} {behind : Trace}

/-- The first call of a batch. -/
theorem callAt_first (notices : List Notice)
    (reported : Reported (attempt daemon settings event worker)
      (reaction daemon settings event worker).context (rest.length + 1) behind) :
    CallAt daemon settings worker.daemon (event :: rest).length (notices.map .noted)
      (attempt daemon settings event worker) behind := by
  have none : Trace.attempts (notices.map .noted) = [] := Trace.attempts_map_noted notices
  have untouched : daemon.stateAfter (Trace.calls (notices.map .noted)) worker.daemon
      = worker.daemon := by
    rw [Trace.calls, none]
    rfl
  refine ⟨?_, ?_, ?_⟩
  · rw [untouched]
    exact made_attempt event worker
  · rw [none]
    exact fun _ member => absurd member List.not_mem_nil
  · rw [untouched, none]
    exact reaction_eq event worker ▸ reported

/-- A call of a batch behind the first one, which has settled its event. -/
theorem callAt_later {notice : Notice} {before after : Trace} {call : Attempt}
    (settles : (attempt daemon settings event worker).verdict.settles = true)
    (later : CallAt daemon settings (called daemon settings event worker).daemon rest.length before
      call after) :
    CallAt daemon settings worker.daemon (event :: rest).length
      (attemptTrace daemon settings event worker ++ .noted notice :: before) call after := by
  have calls : (attemptTrace daemon settings event worker ++ .noted notice :: before).attempts
      = attempt daemon settings event worker :: before.attempts := by
    rw [Trace.attempts_append, attempts_attemptTrace]
    rfl
  have state : daemon.stateAfter
        (attemptTrace daemon settings event worker ++ .noted notice :: before).calls worker.daemon
      = daemon.stateAfter before.calls (called daemon settings event worker).daemon := by
    rw [Trace.calls, calls, called, daemon_absorb, reaction_eq]
    rfl
  refine ⟨?_, ?_, ?_⟩
  · rw [state]
    exact later.made
  · rw [calls]
    exact List.forall_mem_cons.mpr ⟨settles, later.settled⟩
  · rw [state, calls, List.length_cons, List.length_cons, Nat.add_sub_add_right]
    exact later.reported

/-- A call of a batch whose first event is settled, once the same is known of the calls for the
rest. -/
theorem callAt_settled {notice : Notice} {later before after : Trace} {call : Attempt}
    (settles : (attempt daemon settings event worker).verdict.settles = true)
    (reported : ∀ behind, Reported (attempt daemon settings event worker)
      (reaction daemon settings event worker).context (rest.length + 1) (.noted notice :: behind))
    (others : ∀ {front : Trace}, later = front ++ .called call :: after →
      CallAt daemon settings (called daemon settings event worker).daemon rest.length front call
        after)
    (whole : (attemptTrace daemon settings event worker ++ [.noted notice]) ++ later
      = before ++ .called call :: after) :
    CallAt daemon settings worker.daemon (event :: rest).length before call after := by
  rw [List.append_assoc] at whole
  rcases split_attemptTrace whole with ⟨notices, rfl, rfl, rfl⟩ | ⟨between, rfl, tail⟩
  · exact callAt_first notices (reported later)
  · obtain ⟨front, rfl, inside⟩ := Trace.split_uncalled rfl tail
    have known := others inside
    exact callAt_later settles known

end

/-- **Every call of a batch is the one that its event asks for, and is reported as it went.** -/
theorem callAt_sendInOrder {batch : List Event} {sent rejected : Nat} {worker : Worker σ}
    {before after : Trace} {call : Attempt}
    (whole : (sendInOrder daemon settings batch sent rejected worker).trace
      = before ++ .called call :: after) :
    CallAt daemon settings worker.daemon batch.length before call after := by
  induction batch generalizing sent rejected worker before with
  | nil => exact absurd whole.symm (List.append_ne_nil_of_right_ne_nil _ (List.cons_ne_nil _ _))
  | cons event rest ih =>
    have verdict : (attempt daemon settings event worker).verdict
        = .ofAnswer (reaction daemon settings event worker).answer := rfl
    cases answer : (reaction daemon settings event worker).answer with
    | error panic =>
      rw [sendInOrder_of_panic rest sent rejected answer] at whole
      rw [← List.append_nil (attemptTrace daemon settings event worker)] at whole
      rcases split_attemptTrace whole with ⟨notices, rfl, rfl, rfl⟩ | ⟨between, -, none⟩
      · exact callAt_first notices (.panicked answer)
      · exact absurd none.symm (List.append_ne_nil_of_right_ne_nil _ (List.cons_ne_nil _ _))
    | ok result =>
      cases result with
      | ok =>
        rw [sendInOrder_of_accepted rest sent rejected answer] at whole
        refine callAt_settled ?_ (.accepted answer) ?_ whole
        · rw [verdict, answer]
          rfl
        · intro front inside
          have known := ih inside
          exact known
      | error status =>
        cases transient : status.isTransient with
        | false =>
          rw [sendInOrder_of_rejected rest sent rejected answer transient] at whole
          refine callAt_settled ?_ (.rejected answer transient) ?_ whole
          · rw [verdict, answer, Verdict.ofAnswer, transient]
            rfl
          · intro front inside
            have known := ih inside
            exact known
        | true =>
          rw [sendInOrder_of_unavailable rest sent rejected answer transient] at whole
          rcases split_attemptTrace whole with ⟨notices, rfl, rfl, rfl⟩ | ⟨between, -, tail⟩
          · exact callAt_first notices (.deferred answer transient)
          · have made : call ∈ (between ++ .called call :: after : Trace).attempts :=
              Trace.mem_attempts
            rw [← tail] at made
            exact absurd made List.not_mem_nil

/-! ## The calls of a pass -/

/-- Only a pass that goes on, whose poll is answered with yes and which finds something waiting then
makes calls. -/
theorem Course.sends {worker : Worker σ} {progress : Progress σ PassOutcome}
    (course : Course daemon settings worker progress) {call : Attempt}
    (made : call ∈ progress.trace.attempts) :
    worker.stop = false ∧ (polling daemon worker).answer = .ok true
      ∧ (polled daemon worker).queue.toList ≠ [] := by
  cases course with
  | stopped => exact absurd made List.not_mem_nil
  | panicked | disconnected | idle =>
    rw [attempts_pollTrace] at made
    exact absurd made List.not_mem_nil
  | sent going answer waiting => exact ⟨going, answer, waiting⟩

/-- The calls before one decide what there is to say of it. -/
theorem CallAt.of_attempts_eq {state : σ} {size : Nat} {before other after : Trace} {call : Attempt}
    (at_ : CallAt daemon settings state size before call after)
    (same : other.attempts = before.attempts) :
    CallAt daemon settings state size other call after := by
  have calls : other.calls = before.calls := congrArg (List.map Attempt.call) same
  refine ⟨?_, ?_, ?_⟩
  · rw [calls]
    exact at_.made
  · rw [same]
    exact at_.settled
  · rw [calls, same]
    exact at_.reported

/-- **Every call of a pass comes behind the one poll of that pass, which was answered with yes.** -/
theorem callAt_pass {worker : Worker σ} {before after : Trace} {call : Attempt}
    (whole : (pass daemon settings worker).trace = before ++ .called call :: after) :
    (∃ (earlier since : Trace) (meanwhile : Meanwhile),
        before = earlier ++ .polled worker.monitor.timeout meanwhile (.ok true) :: since
          ∧ earlier.Quiet ∧ since.polls = [])
      ∧ CallAt daemon settings (polling daemon worker).next
        (pass daemon settings worker).trace.taken.length before call after := by
  have made : call ∈ (pass daemon settings worker).trace.attempts := whole ▸ Trace.mem_attempts
  obtain ⟨going, answer, waiting⟩ := (course_of_pass daemon settings worker).sends made
  obtain ⟨done, finish, sent⟩ := exists_sent daemon settings (polled daemon worker).queue.toList 0 0
    ((polled daemon worker).observed true).emptied
  have polls := sent.polls_eq
  rw [pass_of_waiting going answer waiting] at whole ⊢
  rw [taken_goOn, sent.taken_eq, List.append_nil]
  obtain ⟨between, rfl, later⟩ := Trace.split_uncalled (attempts_pollTrace _) whole
  obtain ⟨front, rfl, inside⟩ := Trace.split_uncalled rfl later
  rw [inside, Trace.polls_append] at polls
  refine ⟨⟨(polling daemon worker).notices.map .noted,
    ((polled daemon worker).monitor.notices true).map .noted
      ++ (.taken (polled daemon worker).queue.toList
        :: .noted (.dequeued (polled daemon worker).queue.toList.length) :: front),
    worker.meanwhile (polling daemon worker).effects, ?_, Trace.quiet_noted _, ?_⟩, ?_⟩
  · rw [pollTrace, answer]
    simp only [List.append_assoc, List.cons_append, List.nil_append]
  · rw [Trace.polls_append, Trace.polls_map_noted]
    exact (List.append_eq_nil_iff.mp polls).1
  · refine (callAt_sendInOrder inside).of_attempts_eq ?_
    rw [Trace.attempts_append, attempts_pollTrace]
    rfl

/-! ### Reports of failures -/

variable (daemon) in
/-- A report of a failure stands right behind a call, or the daemon itself has given it. -/
def Answering (before : Trace) (moment : Occurrence) (_ : Trace) : Prop :=
  ∀ notice, moment = .noted notice → notice.tellsOfFailure = true →
    (∃ earlier attempt, before = earlier ++ [.called attempt]) ∨ daemon.Reports notice

theorem answering_steady : Trace.Steady (Answering daemon) := by
  intro earlier before moment after later answering notice same failure
  rcases answering notice same failure with ⟨front, attempt, rfl⟩ | own
  · exact .inl ⟨earlier ++ front, attempt, (List.append_assoc _ _ _).symm⟩
  · exact .inr own

/-- Notices that do not tell of failures, or that the daemon has given. -/
theorem answering_noted {notices : List Notice}
    (each : ∀ notice ∈ notices, notice.tellsOfFailure = true → daemon.Reports notice) :
    Trace.Throughout (Answering daemon) (notices.map .noted) := by
  refine Trace.throughout_of_forall ?_
  intro moment member before after notice same failure
  obtain ⟨other, listed, rfl⟩ := List.mem_map.mp member
  cases same
  exact .inr (each notice listed failure)

/-- What the daemon reports at a call is what stands before it in the trace, behind the notice that
the call is made. -/
theorem attemptTrace_receive (event : Event) (worker : Worker σ) :
    attemptTrace daemon settings event worker
      = (.sending event.hookType
          :: (daemon.receive (event.call settings) worker.daemon).notices).map .noted
        ++ [.called (attempt daemon settings event worker)] := by
  have notices : (daemon.dispatch (.fresh settings.rpcTimeout) event.payload worker.daemon).notices
      = .sending event.hookType
        :: (daemon.receive (event.call settings) worker.daemon).notices := by
    rw [← reaction_eq]
    cases same : event.payload <;> simp [Daemon.dispatch, Daemon.send, Daemon.pass, reaction, same,
      Event.hookType, Payload.hookType]
  rw [attemptTrace, callTrace, Daemon.call?_dispatch, notices]
  rfl

/-- The call for an event, with the report of what came of it, if there is one. -/
theorem answering_attemptTrace (event : Event) (worker : Worker σ) (report? : Option Notice) :
    Trace.Throughout (Answering daemon)
      (attemptTrace daemon settings event worker ++ report?.toList.map .noted) := by
  have reports : Trace.Throughout (Answering daemon)
      (.called (attempt daemon settings event worker) :: report?.toList.map .noted) := by
    intro before moment after whole notice same failure
    subst same
    cases before with
    | nil => cases (List.cons.inj whole).1
    | cons first between =>
      obtain ⟨rfl, tail⟩ := List.cons.inj whole
      have length := congrArg List.length tail
      have nothing : between = [] := by
        cases report? <;> cases between <;> simp at length ⊢
      exact .inl ⟨[], _, by rw [nothing]; rfl⟩
  rw [attemptTrace_receive, List.append_assoc]
  refine .append answering_steady (answering_noted ?_) reports
  refine List.forall_mem_cons.mpr ⟨nofun, ?_⟩
  intro notice given _
  exact .inr ⟨_, _, given⟩

theorem answering_sendInOrder (batch : List Event) (sent rejected : Nat) (worker : Worker σ) :
    Trace.Throughout (Answering daemon)
      (sendInOrder daemon settings batch sent rejected worker).trace := by
  induction batch generalizing sent rejected worker with
  | nil => exact Trace.throughout_nil
  | cons event rest ih =>
    cases answer : (reaction daemon settings event worker).answer with
    | error panic =>
      rw [sendInOrder_of_panic rest sent rejected answer]
      rw [← List.append_nil (attemptTrace daemon settings event worker)]
      exact answering_attemptTrace event worker none
    | ok result =>
      cases result with
      | ok =>
        rw [sendInOrder_of_accepted rest sent rejected answer]
        exact .append answering_steady (answering_attemptTrace event worker (some _)) (ih _ _ _)
      | error status =>
        cases transient : status.isTransient with
        | false =>
          rw [sendInOrder_of_rejected rest sent rejected answer transient]
          exact .append answering_steady (answering_attemptTrace event worker (some _)) (ih _ _ _)
        | true =>
          rw [sendInOrder_of_unavailable rest sent rejected answer transient]
          exact answering_attemptTrace event worker (some _)

/-- Something that is no notice. -/
theorem answering_other {moment : Occurrence} (other : ∀ notice, moment ≠ .noted notice) :
    Trace.Throughout (Answering daemon) [moment] := by
  refine Trace.throughout_of_forall ?_
  intro found member before after notice same
  rw [List.mem_singleton.mp member] at same
  exact absurd same (other notice)

/-- A poll, with the report of what it changed, which tells of no failed call. -/
theorem answering_pollTrace (worker : Worker σ) {reported : List Notice}
    (silent : ∀ notice ∈ reported, notice.tellsOfFailure = false) :
    Trace.Throughout (Answering daemon) (pollTrace daemon reported worker) := by
  have poll : Trace.Throughout (Answering daemon) ((polling daemon worker).notices.map .noted) :=
    answering_noted fun notice given _ => .inl ⟨_, _, given⟩
  have asked : Trace.Throughout (Answering daemon)
      [.polled worker.monitor.timeout (worker.meanwhile (polling daemon worker).effects)
        (polling daemon worker).answer] :=
    answering_other fun _ same => by cases same
  have reports : Trace.Throughout (Answering daemon) (reported.map .noted) := by
    refine answering_noted ?_
    intro notice given failure
    rw [silent notice given] at failure
    exact absurd failure Bool.false_ne_true
  exact .append answering_steady poll (.append answering_steady asked reports)

/-- **A report of a failure in a pass stands right behind the call that failed.** -/
theorem answering_pass (worker : Worker σ) :
    Trace.Throughout (Answering daemon) (pass daemon settings worker).trace := by
  have silent (monitor : Monitor) (connected : Bool) :
      ∀ notice ∈ monitor.notices connected, notice.tellsOfFailure = false := by
    intro notice given
    obtain ⟨transition, -, rfl⟩ := List.mem_map.mp given
    cases transition <;> rfl
  cases stop : worker.stop with
  | true =>
    rw [pass_of_stop stop]
    exact Trace.throughout_nil
  | false =>
    cases answer : (polling daemon worker).answer with
    | error panic =>
      rw [pass_of_panic stop answer]
      exact answering_pollTrace worker fun _ given => absurd given List.not_mem_nil
    | ok connected =>
      cases connected with
      | false =>
        rw [pass_of_disconnected stop answer]
        exact answering_pollTrace worker (silent _ false)
      | true =>
        by_cases nothing : (polled daemon worker).queue.toList = []
        · rw [pass_of_idle stop answer nothing]
          exact answering_pollTrace worker (silent _ true)
        · rw [pass_of_waiting stop answer nothing]
          have took : Trace.Throughout (Answering daemon)
              [.taken (polled daemon worker).queue.toList] :=
            answering_other fun _ same => by cases same
          have counted : Trace.Throughout (Answering daemon)
              ([.dequeued (polled daemon worker).queue.toList.length].map .noted) :=
            answering_noted (List.forall_mem_singleton.mpr nofun)
          refine .append answering_steady (answering_pollTrace worker (silent _ true)) ?_
          refine .append answering_steady (.append answering_steady took counted) ?_
          exact answering_sendInOrder _ 0 0 _

/-! ### Panics -/

/-- A pass that panics does so in its poll or in one of its calls. -/
theorem Course.panics {worker : Worker σ} {progress : Progress σ PassOutcome}
    (course : Course daemon settings worker progress) {panic : Panic}
    (outcome : progress.outcome = .error panic) :
    (polling daemon worker).answer = .error panic
      ∨ ∃ attempt ∈ progress.trace.attempts, attempt.answer = .error panic := by
  cases course with
  | stopped | disconnected | idle => cases outcome
  | panicked _ answer =>
    cases outcome
    exact .inl answer
  | @sent _ _ _ progress _ finish sent =>
    have same : progress.outcome = .error panic := outcome
    rw [sent.outcome_eq] at same
    cases finish with
    | drained => cases same
    | deferred last left => cases same
    | broken last other left =>
      cases same
      refine .inr ⟨last, ?_, sent.sound⟩
      rw [attempts_goOn, sent.attempts_eq]
      exact List.mem_append_right _ List.mem_cons_self

end Worker

/-! ## The calls of a history -/

namespace History

variable {σ : Type} {daemon : Daemon σ} {settings : DeliverySettings}

/-- What holds of the calls of every pass holds of those of a history. -/
theorem forall_attempts {motive : Attempt → Prop}
    (each : ∀ worker : Worker σ, ∀ attempt ∈ (worker.pass daemon settings).trace.attempts,
      motive attempt)
    (state : σ) (actions : List (Action σ)) :
    ∀ attempt ∈ (run daemon settings actions (fresh settings state)).attempts, motive attempt := by
  refine run_induction (motive := fun history => ∀ attempt ∈ history.attempts, motive attempt)
    (fun _ member => absurd member List.not_mem_nil) ?_
  intro history action _ earlier attempt made
  cases action with
  | enqueue | setStop | adjust =>
    rw [attempts_of_deeds rfl] at made
    exact earlier attempt ((List.mem_append.mp made).resolve_right List.not_mem_nil)
  | pass =>
    rw [attempts_of_deeds rfl] at made
    rcases List.mem_append.mp made with before | now
    · exact earlier attempt before
    · exact each history.worker attempt now

/-- Every call of a history is the one that its event asks for, and is answered by the daemon. -/
theorem made_run (daemon : Daemon σ) (settings : DeliverySettings) (state : σ)
    (actions : List (Action σ)) :
    ∀ attempt ∈ (run daemon settings actions (fresh settings state)).attempts,
      ∃ found, attempt.Made daemon settings found := by
  refine forall_attempts (motive := fun attempt => ∃ found, attempt.Made daemon settings found) ?_
    state actions
  intro worker attempt made
  obtain ⟨before, after, whole⟩ := Trace.exists_split made
  exact ⟨_, (Worker.callAt_pass whole).2.made⟩

/-- **Every attempt for an event carries the payload that was handed over under its number.** -/
theorem attempt_of_handedOver {state : σ} {actions : List (Action σ)} {event : Event}
    (known : event ∈ (run daemon settings actions (fresh settings state)).handedOver)
    {attempt : Attempt}
    (made : attempt ∈ (run daemon settings actions (fresh settings state)).attempts)
    (number : attempt.event.arrival = event.arrival) :
    attempt.call = event.call settings
      ∧ ∃ found, attempt.answer = (daemon.receive attempt.call found).answer := by
  have consecutive : Event.Consecutive 0
      (run daemon settings actions (fresh settings state)).handedOver :=
    (balanced_run daemon settings state actions).consecutive
  have given : attempt.event ∈ (run daemon settings actions (fresh settings state)).handedOver :=
    (tried_run daemon settings state actions).known attempt made
  have same : attempt.event = event := by
    have here := consecutive.getElem?_arrival given
    rw [number, consecutive.getElem?_arrival known] at here
    exact (Option.some.inj here).symm
  obtain ⟨found, called⟩ := made_run daemon settings state actions attempt made
  exact ⟨same ▸ called.call_eq, found, called.answer_eq⟩

/-- **What belongs to one call does not get into another**, whatever the daemon and others do.

Every call of a history is the one for the kind of its event, with the payload that was handed over
under the number of the event, and begins with a context in which nothing was left.  In a pass, what
comes of a call is what the daemon makes of that very call in the state in which the calls before
had left it, and the report of a failure quotes the detail that this call left last in its context.
No other failures are reported, unless by the daemon itself.  A payload that is dispatched always
reaches the daemon, so that a panic in a pass is the daemon's own.  An entry for another kind panics
before the daemon is called, and changes nothing. -/
theorem calls_stay_apart (daemon : Daemon σ) (settings : DeliverySettings) (state : σ)
    (actions : List (Action σ)) :
    let history := run daemon settings actions (fresh settings state)
    (∀ attempt ∈ history.attempts,
        attempt.call.kind = attempt.event.payload.hookType
          ∧ attempt.call.request = attempt.event.payload
          ∧ attempt.call.context = { timeout := settings.rpcTimeout, detail? := none }
          ∧ (history.handedOver.map Event.payload)[attempt.event.arrival]?
            = some attempt.call.request)
      ∧ (∀ payloads, (act daemon settings history (.enqueue payloads)).handedOver.map Event.payload
        = history.handedOver.map Event.payload ++ payloads)
      ∧ (∀ (worker : Worker σ) (before : Trace) (attempt : Attempt) (after : Trace),
        (worker.pass daemon settings).trace = before ++ .called attempt :: after →
        let state := daemon.stateAfter before.calls (Worker.polling daemon worker).next
        let reaction := daemon.receive attempt.call state
        attempt.Made daemon settings state
          ∧ Reported attempt reaction.context
            ((worker.pass daemon settings).trace.taken.length - before.attempts.length) after
          ∧ ∀ details : List String,
            reaction.context = details.foldl CallContext.withDetail attempt.call.context →
            reaction.context.detail = details.getLast?.getD "")
      ∧ (∀ (worker : Worker σ) (before : Trace) (notice : Notice) (after : Trace),
        (worker.pass daemon settings).trace = before ++ .noted notice :: after →
        notice.tellsOfFailure = true →
        (∃ earlier attempt, before = earlier ++ [.called attempt]) ∨ daemon.Reports notice)
      ∧ (∀ (worker : Worker σ) (panic : Panic),
        (worker.pass daemon settings).outcome = .error panic →
        (Worker.polling daemon worker).answer = .error panic
          ∨ ∃ attempt ∈ (worker.pass daemon settings).trace.attempts,
            attempt.answer = .error panic)
      ∧ (∀ (context : CallContext) (payload : Payload) (state : σ),
        (daemon.dispatch context payload state).call? = some ⟨payload.hookType, context, payload⟩
          ∧ (daemon.dispatch context payload state).reaction
            = daemon.receive ⟨payload.hookType, context, payload⟩ state)
      ∧ ∀ (entry : HookType) (context : CallContext) (payload : Payload) (state : σ),
        entry ≠ payload.hookType →
        daemon.send entry context payload state
          = { call? := none
              notices := []
              reaction.answer := .error (entry.mismatch payload.hookType)
              reaction.next := state
              reaction.context := context } := by
  intro history
  refine ⟨?_, ?_, ?_, ?_, ?_, ?_, ?_⟩
  · intro attempt made
    have call_eq : attempt.call = attempt.event.call settings := by
      refine forall_attempts (motive := fun made => made.call = made.event.call settings)
        ?_ state actions attempt made
      intro worker attempt made
      obtain ⟨before, after, whole⟩ := Trace.exists_split made
      exact (Worker.callAt_pass whole).2.made.call_eq
    have known : attempt.event ∈ history.handedOver :=
      (tried_run daemon settings state actions).known attempt made
    have here : history.handedOver[attempt.event.arrival]? = some attempt.event :=
      (balanced_run daemon settings state actions).consecutive.getElem?_arrival known
    rw [call_eq, List.getElem?_map, here]
    exact ⟨rfl, rfl, rfl, rfl⟩
  · intro payloads
    rw [handedOver_of_deeds rfl, List.map_append]
    exact congrArg (_ ++ ·) (Event.map_payload_numbered _ payloads)
  · intro worker before attempt after whole state reaction
    obtain ⟨made, -, reported⟩ := (Worker.callAt_pass whole).2
    refine ⟨made, reported, ?_⟩
    intro details left
    rw [made.call_eq] at left
    exact CallContext.detail_of_details left
  · intro worker before notice after whole failure
    exact Worker.answering_pass worker before _ after whole notice rfl failure
  · intro worker panic outcome
    exact (Worker.course_of_pass daemon settings worker).panics outcome
  · exact daemon.dispatch_reaches
  · intro entry context payload state other
    exact daemon.send_of_ne other context state

/-- A daemon that leaves two details when it rejects the hooks of jobs that start, and none when it
cannot be reached for those of jobs that end; it panics at the others. -/
def muttering : Daemon Nat where
  poll := fun _ made => { answer := .ok true, next := made }
  startHook := fun context _ made =>
    { answer := .ok (.error ⟨.internal, "refused"⟩)
      next := made + 1
      context := ["first", "second"].foldl .withDetail context }
  finishHook := fun context _ made =>
    { answer := .ok (.error ⟨.unavailable, "gone"⟩), next := made + 1, context }
  monitorHook := fun context _ made => { answer := .error ⟨"broken"⟩, next := made + 1, context }

theorem muttering_silent (notice : Notice) : ¬ muttering.Reports notice := by
  rintro (⟨_, _, given⟩ | ⟨call, _, given⟩)
  · cases given
  · rcases call with ⟨_, _, _ | _ | _⟩ <;> cases given

/-- Of two calls that fail in one pass, the report of the first one quotes the detail that was left
last, and that of the second one quotes nothing. -/
theorem calls_stay_apart_muttering :
    let payloads : List Payload := [.start [], .finish []]
    let history := run muttering {} [.enqueue payloads, .pass] (fresh {} 0)
    let worker := (Worker.fresh {} 0).enqueue payloads
    let first := Worker.attempt muttering {} ⟨.start [], 0⟩ worker
    let second :=
      Worker.attempt muttering {} ⟨.finish [], 1⟩ (Worker.called muttering {} first.event worker)
    let happened := (worker.pass muttering {}).trace
    let broken := ((Worker.fresh {} 0).enqueue [.monitor default]).pass muttering {}
    history.attempts = [first, second]
      ∧ (∀ attempt ∈ history.attempts, attempt.call.context.detail? = none)
      ∧ (muttering.receive first.call 0).context.detail = "second"
      ∧ happened.drop 9 = [.noted (.deferred .finish 1 "" "gone")]
      ∧ Reported second (muttering.receive second.call 1).context 1 (happened.drop 9)
      ∧ (∃ front call, happened.take 6 = front ++ [.called call])
      ∧ (∃ call ∈ broken.trace.attempts, call.answer = .error ⟨"broken"⟩)
      ∧ muttering.send .finish (.fresh none) (.start []) 0
        = ⟨none, [], ⟨⟨.error (HookType.finish.mismatch .start), [], {}, 0⟩, .fresh none⟩⟩ := by
  intro payloads history worker first second happened broken
  obtain ⟨calls, -, passes, reports, panics, -, others⟩ :=
    calls_stay_apart muttering {} 0 [.enqueue payloads, .pass]
  obtain ⟨-, -, quoted⟩ := passes worker (happened.take 5) first (happened.drop 6) rfl
  obtain ⟨-, reported, -⟩ := passes worker (happened.take 8) second (happened.drop 9) rfl
  refine ⟨rfl, ?_, quoted ["first", "second"] rfl, rfl, reported, ?_, ?_, ?_⟩
  · intro attempt made
    rw [(calls attempt made).2.2.1]
  · rcases reports worker (happened.take 6) (.rejected .start "second" ⟨.internal, "refused"⟩)
        (happened.drop 7) rfl rfl with behind | own
    · exact behind
    · exact absurd own (muttering_silent _)
  · rcases panics ((Worker.fresh {} 0).enqueue [.monitor default]) ⟨"broken"⟩ rfl with poll | call
    · cases poll
    · exact call
  · exact others .finish (.fresh none) (.start []) 0 nofun

end History

end JobHooks
