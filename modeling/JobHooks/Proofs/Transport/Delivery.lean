import JobHooks.Proofs.Calls
import JobHooks.Proofs.Transport.Channel

/-!
# Delivery over a transport

The worker ends a batch when a call finds the daemon unavailable, and the transport drops its
channel then.  Each of the two looks at the status for itself.  Since both ask the same of it, a call
that settles its event leaves the channel in place for the next one (`Transport.hasChannel_receive`),
and a batch begins only behind a poll that was answered with yes, which leaves a channel.

`Daemon.among` lets others act while the worker waits for an answer.  `Transport.hasChannel_at_pass`
and `Transport.hasChannel_of_pass` say what a pass finds and leaves of the channel, and
`Transport.delivery_agrees` puts this together for any run of the worker: its calls are always made
over a channel, and after a pass that puts events off, the next poll dials.
-/

namespace JobHooks

set_option autoImplicit false

variable {σ ρ : Type}

/-- Whether there is a channel behind a pass, unless it was stopped. -/
def PassOutcome.channel? : PassOutcome → Option Bool
  | stopped => none
  | idle | drained _ _ => some true
  | disconnected | deferred _ _ _ => some false

/-! ## Others act meanwhile -/

/-- What comes of a call for which the worker waits, when others act meanwhile. -/
def CallReaction.among (others : Effects) (waits : Nat) (reaction : CallReaction σ) :
    CallReaction (σ × Nat) where
  answer := reaction.answer
  notices := reaction.notices
  effects := others
  next := (reaction.next, waits + 1)
  context := reaction.context

/-- A daemon without effects of its own, among others: while the worker waits for its answers, they
do one time after the other what `others` says. -/
def Daemon.among (others : Nat → Effects) (daemon : Daemon σ) : Daemon (σ × Nat) where
  poll := fun timeout (state, waits) =>
    let reaction := daemon.poll timeout state
    { answer := reaction.answer
      notices := reaction.notices
      effects := others waits
      next := (reaction.next, waits + 1) }
  startHook := fun context jobs (state, waits) =>
    (daemon.startHook context jobs state).among (others waits) waits
  finishHook := fun context jobs (state, waits) =>
    (daemon.finishHook context jobs state).among (others waits) waits
  monitorHook := fun context target (state, waits) =>
    (daemon.monitorHook context target state).among (others waits) waits

theorem Daemon.receive_among (others : Nat → Effects) (daemon : Daemon σ) (call : Call)
    (state : σ × Nat) :
    (daemon.among others).receive call state
      = (daemon.receive call state.1).among (others state.2) state.2 := by
  obtain ⟨kind, context, payload⟩ := call
  cases payload <;> rfl

namespace Transport

variable [Inhabited ρ] {link : Link σ ρ} {others : Nat → Effects} {settings : DeliverySettings}

/-! ## What answers mean for the channel -/

theorem receive_daemon (link : Link σ ρ) (call : Call) (transport : Transport σ) :
    (daemon link).receive call transport
      = transport.callReaction link call.context call.request := by
  obtain ⟨kind, context, payload⟩ := call
  cases payload <;> rfl

/-- What the worker is answered is what comes of a call. -/
theorem reaction_daemon (link : Link σ ρ) (settings : DeliverySettings) (event : Event)
    (worker : Worker (Transport σ)) :
    Worker.reaction (daemon link) settings event worker
      = worker.daemon.callReaction link (.fresh settings.rpcTimeout) event.payload := by
  rw [Worker.reaction_eq, receive_daemon]
  rfl

/-- **Behind a poll there is a channel if it was answered with yes, and only then.** -/
theorem hasChannel_polling {worker : Worker (Transport σ × Nat)} {connected : Bool}
    (answer : (Worker.polling ((daemon link).among others) worker).answer = .ok connected) :
    (Worker.polling ((daemon link).among others) worker).next.1.hasChannel = connected := by
  have given : .ok (worker.daemon.1.poll link worker.monitor.timeout).1.isReached
      = (.ok connected : Except Panic Bool) := answer
  rw [← Except.ok.inj given]
  exact (isReached_poll link worker.monitor.timeout worker.daemon.1).symm

/-- **Behind a call there is a channel if there was one before and the call did not find the daemon
unavailable**, as the worker understands its answer. -/
theorem hasChannel_receive (call : Call) {state : Transport σ × Nat}
    (channel : state.1.hasChannel = true) :
    (((daemon link).among others).receive call state).next.1.hasChannel = true
      ↔ Verdict.ofAnswer (((daemon link).among others).receive call state).answer
        ≠ .unavailable := by
  rw [Daemon.receive_among, receive_daemon]
  refine (hasChannel_call link state.1 call.context call.request default).trans ?_
  rw [and_iff_right channel]
  change (∀ status, (state.1.call link call.context call.request default).answer
      = .ok (.error status) → status.code ≠ .unavailable)
    ↔ Verdict.ofAnswer (state.1.call link call.context call.request default).answer ≠ .unavailable
  rcases (state.1.call link call.context call.request default).answer with panic | status | done
  · simp [Verdict.ofAnswer]
  · have transient : status.isTransient = true ↔ status.code = .unavailable := beq_iff_eq
    simp only [Verdict.ofAnswer, Except.ok.injEq, Except.error.injEq, forall_eq', ne_eq,
      ← transient]
    cases status.isTransient <;> simp
  · simp [Verdict.ofAnswer]

/-- Calls that settle their events leave the channel in place. -/
theorem hasChannel_exchange {events : List Event} {worker : Worker (Transport σ × Nat)}
    (channel : worker.daemon.1.hasChannel = true)
    (settled : ∀ attempt ∈
      (Worker.exchange ((daemon link).among others) settings events worker).1,
      attempt.verdict.settles = true) :
    (Worker.exchange ((daemon link).among others) settings events worker).2.daemon.1.hasChannel
      = true := by
  induction events generalizing worker with
  | nil => exact channel
  | cons event events ih =>
    obtain ⟨first, later⟩ := List.forall_mem_cons.mp settled
    refine ih ?_ later
    have kept : Verdict.ofAnswer (Worker.reaction ((daemon link).among others) settings event
        worker).answer ≠ .unavailable := Verdict.ne_of_settles first rfl
    rw [Worker.reaction_eq] at kept
    rw [Worker.called, Worker.daemon_absorb, Worker.reaction_eq]
    exact (hasChannel_receive _ channel).mpr kept

/-! ## What a batch finds and leaves of the channel -/

section

variable {batch : List Event} {worker last : Worker (Transport σ × Nat)}
  {progress : Progress (Transport σ × Nat) PassOutcome} {done : List Attempt} {finish : Finish}

/-- Behind calls that have settled their events there is still a channel. -/
theorem exists_between {first rest : List Attempt} (channel : worker.daemon.1.hasChannel = true)
    (exchanged : Worker.exchange ((daemon link).among others) settings
      ((first ++ rest).map Attempt.event) worker = (first ++ rest, last))
    (settled : ∀ attempt ∈ first, attempt.verdict.settles = true) :
    ∃ between : Worker (Transport σ × Nat), between.daemon.1.hasChannel = true
      ∧ between.daemon
        = ((daemon link).among others).stateAfter (first.map Attempt.call) worker.daemon
      ∧ Worker.exchange ((daemon link).among others) settings (rest.map Attempt.event) between
        = (rest, last) := by
  obtain ⟨between, early, state, late⟩ := Worker.exchange_split exchanged
  have kept : (Worker.exchange ((daemon link).among others) settings
      (first.map Attempt.event) worker).2.daemon.1.hasChannel = true :=
    hasChannel_exchange channel (by rw [early]; exact settled)
  rw [early] at kept
  exact ⟨between, kept, state, late⟩

/-- The calls of a batch that begins with a channel are made with one. -/
theorem hasChannel_at_call {before after : List Attempt} {attempt : Attempt}
    (sent : Worker.Sent ((daemon link).among others) settings batch 0 0 worker progress done finish)
    (channel : worker.daemon.1.hasChannel = true)
    (made : progress.trace.attempts = before ++ attempt :: after)
    (settled : ∀ earlier ∈ before, earlier.verdict.settles = true) :
    (((daemon link).among others).stateAfter (before.map Attempt.call)
      worker.daemon).1.hasChannel = true := by
  obtain ⟨last, exchanged, -⟩ := sent.exchanged
  rw [made] at exchanged
  obtain ⟨between, kept, state, -⟩ := exists_between channel exchanged settled
  exact state ▸ kept

/-- **A batch that begins with a channel leaves one if it is drained, and none if it is put off.** -/
theorem hasChannel_of_sent
    (sent : Worker.Sent ((daemon link).among others) settings batch 0 0 worker progress done finish)
    (channel : worker.daemon.1.hasChannel = true) {outcome : PassOutcome}
    (came : progress.outcome = .ok outcome) {leaves : Bool}
    (leaves_eq : outcome.channel? = some leaves) :
    progress.worker.daemon.1.hasChannel = leaves := by
  obtain ⟨last, exchanged, state⟩ := sent.exchanged
  rw [sent.attempts_eq] at exchanged
  rw [sent.outcome_eq] at came
  obtain ⟨between, kept, -, late⟩ := exists_between channel exchanged sent.settled
  cases finish with
  | drained =>
    cases came
    cases leaves_eq
    rw [state, ← (Prod.mk.inj late).2]
    exact kept
  | deferred final left =>
    cases came
    cases leaves_eq
    obtain ⟨attempts, after⟩ := Prod.mk.inj late
    have unavailable : Verdict.ofAnswer (Worker.reaction ((daemon link).among others) settings
        final.event between).answer = .unavailable :=
      (congrArg Attempt.verdict (List.cons.inj attempts).1).trans sent.sound
    rw [Worker.reaction_eq] at unavailable
    have reached : last.daemon = (Worker.reaction ((daemon link).among others) settings
        final.event between).next := congrArg Worker.daemon after.symm
    rw [state, reached, Worker.reaction_eq]
    exact eq_false_of_ne_true fun still => (hasChannel_receive _ kept).mp still unavailable
  | broken => cases came

end

/-! ## What a pass finds and leaves of the channel -/

/-- **What a pass comes to says whether there is a channel behind it.** -/
theorem hasChannel_of_pass {worker : Worker (Transport σ × Nat)} {outcome : PassOutcome}
    {leaves : Bool}
    (came : (worker.pass ((daemon link).among others) settings).outcome = .ok outcome)
    (leaves_eq : outcome.channel? = some leaves) :
    (worker.pass ((daemon link).among others) settings).worker.daemon.1.hasChannel = leaves := by
  have course := Worker.course_of_pass ((daemon link).among others) settings worker
  generalize worker.pass ((daemon link).among others) settings = progress at came course ⊢
  cases course with
  | stopped =>
    cases came
    cases leaves_eq
  | panicked => cases came
  | disconnected going answer | idle going answer =>
    cases came
    cases leaves_eq
    exact hasChannel_polling answer
  | sent going answer waiting sent =>
    exact hasChannel_of_sent sent (hasChannel_polling answer) came leaves_eq

/-- **Every call of a pass is made over a channel.** -/
theorem hasChannel_at_pass {worker : Worker (Transport σ × Nat)} {before after : Trace}
    {attempt : Attempt}
    (whole : (worker.pass ((daemon link).among others) settings).trace
      = before ++ .called attempt :: after) :
    (((daemon link).among others).stateAfter before.calls
      (Worker.polling ((daemon link).among others) worker).next).1.hasChannel = true := by
  obtain ⟨-, call⟩ := Worker.callAt_pass whole
  have made : (worker.pass ((daemon link).among others) settings).trace.attempts
      = before.attempts ++ attempt :: after.attempts := by
    rw [whole, Trace.attempts_append]
    rfl
  have course := Worker.course_of_pass ((daemon link).among others) settings worker
  generalize worker.pass ((daemon link).among others) settings = progress at made course
  have some : attempt ∈ progress.trace.attempts := by
    rw [made]
    exact List.mem_append_right _ List.mem_cons_self
  obtain ⟨-, answer, -⟩ := course.sends some
  cases course with
  | stopped => exact absurd some List.not_mem_nil
  | panicked | disconnected | idle =>
    rw [Worker.attempts_pollTrace] at some
    exact absurd some List.not_mem_nil
  | sent _ _ _ sent =>
    rw [Worker.attempts_goOn] at made
    exact hasChannel_at_call sent (hasChannel_polling answer) made call.settled

end Transport

/-! ## Any run of the worker -/

/-- What is done with a worker that delivers over a transport: on the side of the daemon, something
changes beyond the transport only. -/
def Action.beyond : Action σ → Action (Transport (σ × List (Contact ρ)) × Nat)
  | enqueue payloads => .enqueue payloads
  | setStop stop => .setStop stop
  | adjust change =>
    .adjust fun state =>
      ({ state.1 with beyond := state.1.beyond.map change id }, state.2)
  | pass => .pass

namespace Transport

/-- Between two passes the channel stays as it is. -/
theorem hasChannel_between {daemon : Daemon (Transport (σ × List (Contact ρ)) × Nat)}
    {settings : DeliverySettings} {actions : List (Action σ)} (none : .pass ∉ actions)
    (history : History (Transport (σ × List (Contact ρ)) × Nat)) :
    (History.run daemon settings (actions.map .beyond) history).worker.daemon.1.hasChannel
      = history.worker.daemon.1.hasChannel := by
  refine History.run_induction
    (motive := fun after : History (Transport (σ × List (Contact ρ)) × Nat) =>
      after.worker.daemon.1.hasChannel = history.worker.daemon.1.hasChannel) rfl ?_
  intro after action member same
  obtain ⟨origin, listed, rfl⟩ := List.mem_map.mp member
  cases origin with
  | enqueue | setStop | adjust => exact same
  | pass => exact absurd listed none

/-- **Worker and transport agree about the channel**, in any run of the worker over a transport,
whatever comes of dialling the daemon and of the requests, and whatever others do meanwhile.

* Every call is made over a channel.  If its time limit can be expressed it is one request, whose
  result decides the answer, so that no call is answered for want of a channel.
* Behind a pass that puts events off there is no channel until the next pass, which begins with
  dialling the daemon.  The same holds if the daemon could not be reached.
* Behind a pass that has drained its batch, or found nothing to send, there is a channel until the
  next pass, whose poll contacts nobody. -/
theorem delivery_agrees [Inhabited ρ] (link : Link σ ρ) (others : Nat → Effects)
    (settings : DeliverySettings) (state : σ) (actions : List (Action σ)) :
    let daemon := (Transport.daemon link.logging).among others
    let history := History.run daemon settings (actions.map .beyond)
      (.fresh settings ({ beyond := (state, []) }, 0))
    let progress := history.worker.pass daemon settings
    (∀ (before : Trace) attempt after, progress.trace = before ++ .called attempt :: after →
        let found := daemon.stateAfter before.calls (Worker.polling daemon history.worker).next
        found.1.hasChannel = true
          ∧ ∀ limit?, Rpc.limitOf settings.rpcTimeout = .ok limit? →
            ∃ result,
              (daemon.receive attempt.call found).next.1.beyond.2 = found.1.beyond.2
                ++ [.exchanged attempt.call.kind (.ofPayload limit? attempt.event.payload) result]
              ∧ attempt.answer = result.map fun received =>
                (received.mapError Rpc.Failure.normalized).map fun _ => ())
      ∧ ∀ later : List (Action σ), .pass ∉ later →
        let next := (History.run daemon settings (later.map .beyond)
          (history.act daemon settings .pass)).worker
        let polled := Worker.polling daemon next
        ((∃ sent rejected requeued, progress.outcome = .ok (.deferred sent rejected requeued))
            ∨ progress.outcome = .ok .disconnected →
          next.daemon.1.hasChannel = false
            ∧ ∃ outcome : PollOutcome, polled.answer = .ok outcome.isReached
              ∧ polled.next.1.beyond.2
                = next.daemon.1.beyond.2 ++ [.dialled next.monitor.timeout outcome])
          ∧ ((∃ sent rejected, progress.outcome = .ok (.drained sent rejected))
            ∨ progress.outcome = .ok .idle →
          next.daemon.1.hasChannel = true
            ∧ polled.answer = .ok true ∧ polled.next.1 = next.daemon.1) := by
  intro daemon history progress
  refine ⟨?_, ?_⟩
  · intro before attempt after whole found
    have channel : found.1.hasChannel = true := hasChannel_at_pass whole
    refine ⟨channel, fun limit? expressible => ?_⟩
    obtain ⟨call, answer, -, -⟩ := (Worker.callAt_pass whole).2.made
    let context : CallContext := .fresh settings.rpcTimeout
    obtain ⟨result, beyond, -, exchanged⟩ :=
      exists_exchange link context attempt.event.payload default channel expressible
    have received : daemon.receive attempt.call found
        = (found.1.callReaction link.logging context attempt.event.payload).among
          (others found.2) found.2 := by
      rw [call, Daemon.receive_among, receive_daemon]
      rfl
    refine ⟨result, ?_, answer.trans ?_⟩
    · rw [received, call]
      change (found.1.call link.logging context attempt.event.payload default).next.beyond.2 = _
      rw [exchanged, beyond_conclude]
      rfl
    · rw [received]
      change (found.1.call link.logging context attempt.event.payload default).answer = _
      rw [exchanged, answer_conclude]
  · intro later none next polled
    have kept : next.daemon.1.hasChannel = progress.worker.daemon.1.hasChannel :=
      hasChannel_between none (history.act daemon settings .pass)
    constructor
    · intro came
      have closed : next.daemon.1.hasChannel = false := by
        rw [kept]
        rcases came with ⟨sent, rejected, requeued, deferred⟩ | disconnected
        · exact hasChannel_of_pass deferred rfl
        · exact hasChannel_of_pass disconnected rfl
      refine ⟨closed, (next.daemon.1.poll link.logging next.monitor.timeout).1, rfl, ?_⟩
      change (next.daemon.1.poll link.logging next.monitor.timeout).2.beyond.2 = _
      rw [poll_of_noChannel closed]
      rfl
    · intro came
      have open_ : next.daemon.1.hasChannel = true := by
        rw [kept]
        rcases came with ⟨sent, rejected, drained⟩ | idle
        · exact hasChannel_of_pass drained rfl
        · exact hasChannel_of_pass idle rfl
      have same : next.daemon.1.poll link.logging next.monitor.timeout
          = (.reached, next.daemon.1) := poll_of_channel open_
      refine ⟨open_, ?_, congrArg Prod.snd same⟩
      have answer : polled.answer
          = .ok (next.daemon.1.poll link.logging next.monitor.timeout).1.isReached := rfl
      rw [answer, same]
      rfl

/-- A hook arrives during the poll.  If the next request is the first one, it finds the daemon
unavailable, both events are put off, and the next poll dials; otherwise both are accepted. -/
theorem delivery_agrees_flapping :
    let others (waits : Nat) : Effects :=
      if waits = 0 then { arrivals := [.monitor default] } else {}
    let daemon := (Transport.daemon flapping.logging).among others
    let given (sent : Nat) := History.run daemon {} ([Action.enqueue [.start []]].map .beyond)
      (.fresh {} ({ beyond := (sent, []) }, 0))
    let between (sent : Nat) := (History.run daemon {} ([Action.setStop false].map .beyond)
      ((given sent).act daemon {} .pass)).worker
    ((given 0).worker.pass daemon {}).outcome = .ok (.deferred 0 0 2)
      ∧ (between 0).daemon.1.hasChannel = false
      ∧ (∃ outcome, (Worker.polling daemon (between 0)).next.1.beyond.2
        = (between 0).daemon.1.beyond.2 ++ [.dialled (between 0).monitor.timeout outcome])
      ∧ ((given 1).worker.pass daemon {}).outcome = .ok (.drained 2 0)
      ∧ (between 1).daemon.1.hasChannel = true
      ∧ ∃ attempt ∈ ((given 0).worker.pass daemon {}).trace.attempts, ∃ found result,
        found.1.hasChannel = true
          ∧ (daemon.receive attempt.call found).next.1.beyond.2 = found.1.beyond.2
            ++ [.exchanged attempt.call.kind (.ofPayload none attempt.event.payload) result] := by
  intro others daemon given between
  have deferred : ((given 0).worker.pass daemon {}).outcome = .ok (.deferred 0 0 2) := rfl
  have drained : ((given 1).worker.pass daemon {}).outcome = .ok (.drained 2 0) := rfl
  have one : ((given 0).worker.pass daemon {}).trace.attempts.length = 1 := rfl
  have quiet : .pass ∉ [(.setStop false : Action Nat)] := by simp
  obtain ⟨calls, missed⟩ := delivery_agrees flapping others {} 0 [.enqueue [.start []]]
  obtain ⟨-, reached⟩ := delivery_agrees flapping others {} 1 [.enqueue [.start []]]
  obtain ⟨closed, outcome, -, dialled⟩ := (missed _ quiet).1 (.inl ⟨0, 0, 2, deferred⟩)
  obtain ⟨open_, -, -⟩ := (reached _ quiet).2 (.inl ⟨2, 0, drained⟩)
  obtain ⟨attempt, made⟩ := List.exists_mem_of_length_pos (one ▸ Nat.one_pos)
  obtain ⟨before, behind, whole⟩ := Trace.exists_split made
  obtain ⟨channel, requests⟩ := calls before attempt behind whole
  obtain ⟨result, logged, -⟩ := requests none rfl
  exact ⟨deferred, closed, ⟨outcome, dialled⟩, drained, open_, attempt, made, _, result, channel,
    logged⟩

end Transport

end JobHooks
